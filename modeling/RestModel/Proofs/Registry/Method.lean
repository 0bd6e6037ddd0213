import Mathlib.Data.List.Perm.Basic
import RestModel.Proofs.Lists
import RestModel.Proofs.OrderedMap
import RestModel.Proofs.Path.Simplest

/-!
# Methods declared on a type

A new path comes behind the other paths of a type, and a new method behind the other methods of its
path.  So after any calls that declare methods, a type has the paths of these calls in the order in
which they came up first, and on each path the methods that were called on it.
-/

namespace RestModel.TypeDef

/-! ## One call -/

theorem addMethod_of_hasMethod {type : TypeDef} {method path : String}
    (hdeclared : type.hasMethod method path = true) : type.addMethod method path = type := by
  rw [addMethod, if_pos hdeclared]

theorem hasMethod_iff {type : TypeDef} {method path : String} :
    type.hasMethod method path = true ↔ method ∈ type.methodsOn path := by
  rw [hasMethod, List.contains_iff_mem]

theorem path_mem_keys_of_hasMethod {type : TypeDef} {method path : String}
    (hdeclared : type.hasMethod method path = true) : path ∈ type.paths.keys := by
  rw [OrderedMap.mem_keys_iff]
  rw [hasMethod, methodsOn] at hdeclared
  cases hfound : type.paths.get? path with
  | none => simp [hfound] at hdeclared
  | some methods => exact ⟨methods, rfl⟩

/-- A new path comes behind the others. -/
theorem keys_addMethod (type : TypeDef) (method path : String) :
    (type.addMethod method path).paths.keys =
      if path ∈ type.paths.keys then type.paths.keys else type.paths.keys ++ [path] := by
  by_cases hdeclared : type.hasMethod method path = true
  · rw [addMethod_of_hasMethod hdeclared, if_pos (path_mem_keys_of_hasMethod hdeclared)]
  · rw [addMethod, if_neg hdeclared]
    exact OrderedMap.keys_insert type.paths path _

/-- A new method comes behind the others of its path. -/
theorem methodsOn_addMethod (type : TypeDef) (method path : String) :
    (type.addMethod method path).methodsOn path =
      if method ∈ type.methodsOn path then type.methodsOn path
      else type.methodsOn path ++ [method] := by
  by_cases hdeclared : type.hasMethod method path = true
  · rw [addMethod_of_hasMethod hdeclared, if_pos (hasMethod_iff.mp hdeclared)]
  · rw [addMethod, if_neg hdeclared, if_neg (mt hasMethod_iff.mpr hdeclared), methodsOn,
      OrderedMap.get?_insert, if_pos rfl, Option.getD_some]

theorem methodsOn_addMethod_of_ne (type : TypeDef) (method : String) {path place : String}
    (hother : place ≠ path) :
    (type.addMethod method path).methodsOn place = type.methodsOn place := by
  rw [addMethod]
  split
  · rfl
  · rw [methodsOn, OrderedMap.get?_insert, if_neg hother, methodsOn]

/-! ## All calls so far -/

/-- A call that declares a method on a path. -/
structure Call where
  method : String
  path : String
  deriving DecidableEq

/-- The type after a call. -/
def afterCall (type : TypeDef) (call : Call) : TypeDef :=
  (type.declareMethod call.method call.path).1

/-- The paths of some calls, each once and in the order in which they come up first. -/
def calledPaths (calls : List Call) : List String :=
  (calls.map Call.path).eraseDups

/-- The methods that some calls declare on a path, each once and in the order in which they come up
first. -/
def calledMethods (calls : List Call) (path : String) : List String :=
  ((calls.filter (·.path == path)).map Call.method).eraseDups

/-- The type has the paths and methods of some calls. -/
structure HasCalled (calls : List Call) (type : TypeDef) : Prop where
  paths : type.paths.keys = calledPaths calls
  methods : ∀ path, type.methodsOn path = calledMethods calls path

theorem nodup_calledPaths (calls : List Call) : (calledPaths calls).Nodup :=
  nodup_eraseDups _

theorem mem_calledPaths {calls : List Call} {path : String} :
    path ∈ calledPaths calls ↔ ∃ method, ⟨method, path⟩ ∈ calls := by
  rw [calledPaths, List.mem_eraseDups, List.mem_map]
  constructor
  · rintro ⟨call, hcall, rfl⟩
    exact ⟨call.method, hcall⟩
  · rintro ⟨method, hcall⟩
    exact ⟨_, hcall, rfl⟩

theorem calledPaths_eq_nil_iff {calls : List Call} : calledPaths calls = [] ↔ calls = [] := by
  cases calls with
  | nil => simp [calledPaths]
  | cons call rest => simp [calledPaths, List.eraseDups_cons]

theorem mem_calledMethods {calls : List Call} {method path : String} :
    method ∈ calledMethods calls path ↔ ⟨method, path⟩ ∈ calls := by
  rw [calledMethods, List.mem_eraseDups, List.mem_map]
  constructor
  · rintro ⟨call, hcall, rfl⟩
    obtain ⟨hmem, hpath⟩ := List.mem_filter.mp hcall
    rw [← beq_iff_eq.mp hpath]
    exact hmem
  · intro hcall
    exact ⟨_, List.mem_filter.mpr ⟨hcall, beq_self_eq_true path⟩, rfl⟩

theorem calledPaths_concat (calls : List Call) (call : Call) :
    calledPaths (calls ++ [call]) = if call.path ∈ calledPaths calls then calledPaths calls
      else calledPaths calls ++ [call.path] := by
  rw [calledPaths, List.map_append, List.map_singleton, eraseDups_concat, calledPaths]

theorem calledMethods_concat (calls : List Call) (call : Call) :
    calledMethods (calls ++ [call]) call.path =
      if call.method ∈ calledMethods calls call.path then calledMethods calls call.path
      else calledMethods calls call.path ++ [call.method] := by
  have hown : [call].filter (·.path == call.path) = [call] := by
    rw [List.filter_singleton, beq_self_eq_true, cond_true]
  rw [calledMethods, List.filter_append, hown, List.map_append, List.map_singleton,
    eraseDups_concat, calledMethods]

theorem calledMethods_concat_of_ne (calls : List Call) {call : Call} {path : String}
    (hother : path ≠ call.path) :
    calledMethods (calls ++ [call]) path = calledMethods calls path := by
  have hnone : [call].filter (·.path == path) = [] := by
    rw [List.filter_cons_of_neg (by simpa using hother.symm), List.filter_nil]
  rw [calledMethods, List.filter_append, hnone, List.append_nil, calledMethods]

theorem hasCalled_named (name namespaceUri namePrefix : String) :
    HasCalled [] (named name namespaceUri namePrefix) where
  paths := rfl
  methods _ := rfl

theorem HasCalled.afterCall {calls : List Call} {type : TypeDef} (hcalled : HasCalled calls type)
    (call : Call) : HasCalled (calls ++ [call]) (type.afterCall call) where
  paths := by
    rw [TypeDef.afterCall, declareMethod, keys_addMethod, hcalled.paths, calledPaths_concat]
  methods path := by
    rw [TypeDef.afterCall, declareMethod]
    by_cases hpath : path = call.path
    · rw [hpath, methodsOn_addMethod, hcalled.methods, calledMethods_concat]
    · rw [methodsOn_addMethod_of_ne type call.method hpath, hcalled.methods,
        calledMethods_concat_of_ne calls hpath]

/-- After any calls on a new type, it has the paths and methods of these calls. -/
theorem hasCalled_foldl_afterCall (name namespaceUri namePrefix : String) (calls : List Call) :
    HasCalled calls (calls.foldl afterCall (named name namespaceUri namePrefix)) := by
  induction calls using List.reverseRecOn with
  | nil => exact hasCalled_named name namespaceUri namePrefix
  | append_singleton calls call ih =>
      rw [List.foldl_append, List.foldl_cons, List.foldl_nil]
      exact ih.afterCall call

/-! ## What is read off a type -/

section HasCalled

variable {calls : List Call} {type : TypeDef}

theorem HasCalled.hasMethod_iff (hcalled : HasCalled calls type) (call : Call) :
    type.hasMethod call.method call.path = true ↔ call ∈ calls := by
  rw [TypeDef.hasMethod_iff, hcalled.methods, mem_calledMethods]

theorem HasCalled.entries (hcalled : HasCalled calls type) :
    type.paths.entries =
      (calledPaths calls).map (fun path => (path, calledMethods calls path)) := by
  rw [← hcalled.paths]
  apply OrderedMap.entries_eq_map_keys
  intro path methods hfound
  rw [← hcalled.methods, methodsOn, hfound, Option.getD_some]

/-- A method is declared on as many paths as it was called with. -/
theorem HasCalled.methodCount (hcalled : HasCalled calls type) (method : String) :
    type.methodCount method =
      (calledPaths (calls.filter (·.method == method))).length := by
  have hperm : ((calledPaths calls).filter (fun path => method ∈ calledMethods calls path)).Perm
      (calledPaths (calls.filter (·.method == method))) := by
    rw [List.perm_ext_iff_of_nodup ((nodup_calledPaths _).filter _) (nodup_calledPaths _)]
    intro path
    rw [List.mem_filter, decide_eq_true_eq, mem_calledMethods, mem_calledPaths, mem_calledPaths]
    simp only [List.mem_filter, beq_iff_eq, exists_eq_right]
    exact and_iff_right_of_imp fun hcall => ⟨method, hcall⟩
  rw [TypeDef.methodCount, OrderedMap.values, hcalled.entries, List.map_map, List.filter_map,
    List.length_map, ← hperm.length_eq]
  congr 1
  apply List.filter_congr
  intro path _
  rw [Bool.eq_iff_iff, decide_eq_true_eq]
  exact List.contains_iff_mem

/-- One more call leaves the address of a type as it was or makes its own path the address. -/
theorem canonicalPath?_afterCall (type : TypeDef) (call : Call) :
    (type.afterCall call).canonicalPath? = type.canonicalPath? ∨
      (type.afterCall call).canonicalPath? = some call.path := by
  rw [canonicalPath?, canonicalPath?, afterCall, declareMethod, keys_addMethod]
  split
  · exact Or.inl rfl
  · exact Path.simplest?_concat_eq type.paths.keys call.path

end HasCalled

/-- What a type tells after some calls.  Its paths are those of the calls in the order of the first
calls, and so are the methods of each path, of which there is one at least.  A call is answered by
whether it is new, and one that is not changes nothing.  The address is the first one of the
simplest paths, and the next call leaves it or replaces it by its own path. -/
structure TellsCalls (calls : List Call) (type : TypeDef) : Prop where
  entries : type.paths.entries =
    (calledPaths calls).map (fun path => (path, calledMethods calls path))
  nonempty : ∀ entry ∈ type.paths.entries, entry.2 ≠ []
  answer : ∀ call : Call, (type.declareMethod call.method call.path).2 = true ↔ call ∉ calls
  unchanged : ∀ call : Call, (type.declareMethod call.method call.path).2 = false →
    (type.declareMethod call.method call.path).1 = type
  count : ∀ method, type.methodCount method =
    (calledPaths (calls.filter (·.method == method))).length
  unaddressed : type.canonicalPath? = none ↔ calls = []
  address : type.canonicalPath? = (Path.leastRanked (calledPaths calls)).head?
  next : ∀ call, (type.afterCall call).canonicalPath? = type.canonicalPath? ∨
    (type.afterCall call).canonicalPath? = some call.path

/-- After every call of a run on a new type, the type tells the calls so far. -/
theorem tellsCalls_foldl_afterCall (name namespaceUri namePrefix : String) (calls : List Call) :
    TellsCalls calls (calls.foldl afterCall (named name namespaceUri namePrefix)) := by
  have hcalled := hasCalled_foldl_afterCall name namespaceUri namePrefix calls
  generalize calls.foldl afterCall (named name namespaceUri namePrefix) = type at hcalled ⊢
  have haddress : type.canonicalPath? = (Path.leastRanked (calledPaths calls)).head? := by
    rw [canonicalPath?, Path.simplest?_eq_head?_leastRanked, hcalled.paths]
  refine ⟨hcalled.entries, ?_, ?_, ?_, hcalled.methodCount, ?_, haddress,
    type.canonicalPath?_afterCall⟩
  · intro entry hentry
    rw [hcalled.entries] at hentry
    obtain ⟨path, hpath, rfl⟩ := List.mem_map.mp hentry
    obtain ⟨method, hcall⟩ := mem_calledPaths.mp hpath
    exact List.ne_nil_of_mem (mem_calledMethods.mpr hcall)
  · intro call
    rw [declareMethod, Bool.not_eq_true', ← Bool.not_eq_true, hcalled.hasMethod_iff]
  · intro call hanswer
    rw [declareMethod, Bool.not_eq_false'] at hanswer
    rw [declareMethod, addMethod_of_hasMethod hanswer]
  · rw [canonicalPath?, Path.simplest?_eq_none_iff, hcalled.paths, calledPaths_eq_nil_iff]

end RestModel.TypeDef
