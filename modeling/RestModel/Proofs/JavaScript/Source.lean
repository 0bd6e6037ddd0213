import RestModel.JavaScript.Source

/-!
# Lines of generated code

Generated code is a concatenation of pieces, and most pieces are whole lines.  The lines of such a
text are the lines of its pieces.
-/

namespace RestModel.JavaScript

/-! ## Blocks -/

@[simp] theorem block_nil : block [] = "" := rfl

theorem block_cons (piece : String) (pieces : List String) :
    block (piece :: pieces) = piece ++ block pieces := by
  cases pieces with
  | nil => simp [block]
  | cons next rest => rw [block, block, String.intercalate_cons_cons, String.append_empty]

theorem block_append (pieces others : List String) :
    block (pieces ++ others) = block pieces ++ block others := by
  induction pieces with
  | nil => rw [List.nil_append, block_nil, String.empty_append]
  | cons piece rest ih => rw [List.cons_append, block_cons, block_cons, ih, String.append_assoc]

@[simp] theorem toList_line (text : String) : (line text).toList = text.toList ++ ['\n'] := by
  rw [line, String.toList_append]
  rfl

/-! ## Lines -/

/-- The lines of a text: what stands between its line ends. -/
def textLines (text : String) : List String :=
  (text.toList.splitOn '\n').map String.ofList

theorem textLines_line_append (text rest : String) :
    textLines (line text ++ rest) = textLines text ++ textLines rest := by
  rw [textLines, String.toList_append, toList_line, List.append_assoc, List.singleton_append,
    List.splitOn_append_cons_self, List.map_append]
  rfl

/-- The lines of a text that begins with whole lines. -/
theorem textLines_block_append (texts : List String) (rest : String) :
    textLines (block (texts.map line) ++ rest) = texts.flatMap textLines ++ textLines rest := by
  induction texts with
  | nil => rw [List.map_nil, block_nil, String.empty_append, List.flatMap_nil, List.nil_append]
  | cons text others ih =>
      rw [List.map_cons, block_cons, String.append_assoc, textLines_line_append, ih,
        List.flatMap_cons, List.append_assoc]

/-! ## Whole lines -/

/-- A text has a line, with another line in front of it. -/
def HasLine (content text : String) : Prop :=
  ∃ front back, content = line front ++ line text ++ back

theorem HasLine.append {content text : String} (hline : HasLine content text)
    (front back : String) : HasLine (front ++ content ++ back) text := by
  obtain ⟨before, behind, rfl⟩ := hline
  refine ⟨front ++ before, behind ++ back, ?_⟩
  simp only [line, String.append_assoc]

theorem HasLine.block_append {pieces : List String} {text : String}
    (hline : HasLine (block pieces) text) (before behind : List String) :
    HasLine (block (before ++ pieces ++ behind)) text := by
  rw [JavaScript.block_append, JavaScript.block_append]
  exact hline.append (block before) (block behind)

theorem hasLine_block_of_mem {pieces : List String} {piece text : String}
    (hmem : piece ∈ pieces) (hline : HasLine piece text) : HasLine (block pieces) text := by
  obtain ⟨before, behind, rfl⟩ := List.append_of_mem hmem
  have hpiece : HasLine (block [piece]) text := by
    rw [block_cons, block_nil, String.append_empty]
    exact hline
  rw [← List.singleton_append, ← List.append_assoc]
  exact hpiece.block_append before behind

theorem hasLine_block_cons_cons (front text : String) (rest : List String) :
    HasLine (block (line front :: line text :: rest)) text := by
  refine ⟨front, block rest, ?_⟩
  rw [block_cons, block_cons, String.append_assoc]

/-- Whole lines behind another line end in a line end. -/
theorem exists_line_append_block (front : String) (texts : List String) :
    ∃ whole, line front ++ block (texts.map line) = line whole := by
  induction texts generalizing front with
  | nil => exact ⟨front, String.append_empty⟩
  | cons text rest ih =>
      obtain ⟨whole, hwhole⟩ := ih (line front ++ text)
      refine ⟨whole, ?_⟩
      rw [← hwhole, List.map_cons, block_cons]
      simp only [line, String.append_assoc]

/-- Each of several lines behind another line is a line of the text. -/
theorem hasLine_block_cons_of_mem {front text : String} {texts : List String}
    (hmem : text ∈ texts) : HasLine (block (line front :: texts.map line)) text := by
  obtain ⟨before, behind, rfl⟩ := List.append_of_mem hmem
  obtain ⟨whole, hwhole⟩ := exists_line_append_block front before
  refine ⟨whole, block (behind.map line), ?_⟩
  rw [block_cons, List.map_append, block_append, List.map_cons, block_cons, ← hwhole]
  simp only [String.append_assoc]

end RestModel.JavaScript
