import RestModel.Text.Size
import RestModel.Xml.Entity
import RestModel.Xml.Markup

/-!
# Attributes

The attributes of a tag follow its name.  Each is a key, an equals sign and a quoted value; white
space may stand around the equals sign and need not stand between two attributes.  No key may occur
twice.
-/

namespace RestModel.Xml.Attribute

/-- An attribute as written: the byte offset of its key, the key and the text between the quotes. -/
structure Raw where
  position : Nat
  key : List Char
  value : List Char

/-- The name at the beginning of the content of a tag. -/
def tagName (content : List Char) : List Char :=
  content.takeWhile (!isMarkupBlank ·)

/-- Skip white space. -/
def skipBlanks (input : List Char) : List Char :=
  input.dropWhile isMarkupBlank

/-- Whether a character ends a key. -/
def endsKey (char : Char) : Bool :=
  char == '=' || isMarkupBlank char

/-- The byte offset of a rest of a content of `total` bytes. -/
def offset (total : Nat) (rest : List Char) : Nat :=
  total - Text.byteSize rest

/-- Read the equals sign behind a key, and the white space in front of it. -/
def readEq (total : Nat) (input : List Char) : Except AttributeError (List Char) :=
  match skipBlanks input with
  | [] => .error (.expectedEq total)
  | char :: rest =>
    if char = '=' then .ok rest else .error (.expectedEq (offset total (char :: rest)))

/-- Read a quoted value and the white space in front of it. -/
def readValue (total : Nat) (input : List Char) :
    Except AttributeError (List Char × List Char) :=
  match skipBlanks input with
  | [] => .error (.expectedValue total)
  | quote :: rest =>
    if quote = '"' ∨ quote = '\'' then
      match rest.dropWhile (· != quote) with
      | [] => .error (.expectedQuote total quote)
      | _ :: behind => .ok (rest.takeWhile (· != quote), behind)
    else .error (.unquotedValue (offset total (quote :: rest)))

/-- Read the attribute at the beginning of a rest of a content of `total` bytes, behind leading
white space; `seen` holds the attributes before it. -/
def next? (total : Nat) (seen : List Raw) (input : List Char) :
    Except AttributeError (Option (Raw × List Char)) :=
  match skipBlanks input with
  | [] => .ok none
  | first :: rest => do
    let key := first :: rest.takeWhile (!endsKey ·)
    let position := offset total (first :: rest)
    let behindEq ← readEq total (rest.dropWhile (!endsKey ·))
    match seen.find? (·.key == key) with
    | some previous => .error (.duplicated position previous.position)
    | none =>
      let (value, behind) ← readValue total behindEq
      return some (⟨position, key, value⟩, behind)

theorem length_skipBlanks_le (input : List Char) : (skipBlanks input).length ≤ input.length :=
  (List.dropWhile_suffix isMarkupBlank).sublist.length_le

theorem length_of_readEq {total : Nat} {input rest : List Char}
    (found : readEq total input = .ok rest) : rest.length < input.length := by
  have bound := length_skipBlanks_le input
  unfold readEq at found
  split at found
  · contradiction
  · next char tail split =>
    rw [split] at bound
    split at found
    · cases found
      exact bound
    · contradiction

theorem length_of_readValue {total : Nat} {input value behind : List Char}
    (found : readValue total input = .ok (value, behind)) : behind.length < input.length := by
  have bound := length_skipBlanks_le input
  unfold readValue at found
  split at found
  · contradiction
  · next quote rest split =>
    rw [split] at bound
    split at found
    · split at found
      · contradiction
      · next closing tail dropped =>
        have shorter := (List.dropWhile_suffix (l := rest) (· != quote)).sublist.length_le
        rw [dropped] at shorter
        cases found
        simp only [List.length_cons] at bound shorter
        omega
    · contradiction

theorem length_of_next? {total : Nat} {seen : List Raw} {input behind : List Char} {raw : Raw}
    (found : next? total seen input = .ok (some (raw, behind))) :
    behind.length < input.length := by
  have bound := length_skipBlanks_le input
  unfold next? at found
  split at found
  · cases found
  · next first rest split =>
    rw [split] at bound
    have shorter := (List.dropWhile_suffix (l := rest) (!endsKey ·)).sublist.length_le
    cases eq : readEq total (rest.dropWhile (!endsKey ·)) with
    | error cause => simp [eq, bind, Except.bind] at found
    | ok behindEq =>
      have eqLength := length_of_readEq eq
      simp only [eq, bind, Except.bind] at found
      split at found
      · contradiction
      · cases read : readValue total behindEq with
        | error cause => simp [read] at found
        | ok pair =>
          obtain ⟨value, tail⟩ := pair
          have valueLength := length_of_readValue read
          simp only [read, pure, Except.pure, Except.ok.injEq, Option.some.injEq,
            Prod.mk.injEq] at found
          obtain ⟨_, rfl⟩ := found
          simp only [List.length_cons] at bound
          omega

/-- Read the attributes of a rest of a content of `total` bytes, replacing the references of each
value before the next attribute is read. -/
def readFrom (total : Nat) (seen : List Raw) (input : List Char) :
    Except DocumentError (List (String × String)) :=
  match _step : next? total seen input with
  | .error cause => .error (.badAttribute cause)
  | .ok none => .ok []
  | .ok (some (raw, behind)) =>
    match unescape raw.value with
    | .error cause => .error (.markup (.escape cause))
    | .ok value =>
      (readFrom total (seen ++ [raw]) behind).map
        (fun others => (String.ofList raw.key, String.ofList value) :: others)
termination_by input.length
decreasing_by exact length_of_next? _step

/-- The attributes of a tag, given the content of the tag. -/
def readAll (content : List Char) : Except DocumentError (List (String × String)) :=
  readFrom (Text.byteSize content) [] (content.dropWhile (!isMarkupBlank ·))

end RestModel.Xml.Attribute
