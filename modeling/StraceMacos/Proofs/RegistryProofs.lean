import Mathlib.Data.List.Find
import Mathlib.Data.List.Sort
import StraceMacos.Library.Ascii
import StraceMacos.Tracer

/-!
# The contents of the registry

Which definitions the registry holds, under which names, and at which names the tracer sets
breakpoints. Names and numbers of the registered definitions determine each other; this is checked
once, on the list of pairs sorted by the first component.
-/

namespace StraceMacos

variable {d : SyscallDef} {name : String}

/-! ## Pairs with a functional relation between their components -/

theorem functional_of_isChain {α : Type} {l : List (Nat × α)}
    (h : (l.insertionSort fun a b => a.1 ≤ b.1).IsChain fun a b => a.1 < b.1 ∨ a = b)
    {a b : Nat × α} (ha : a ∈ l) (hb : b ∈ l) (hab : a.1 = b.1) : a = b := by
  have : IsTrans (Nat × α) fun a b => a.1 < b.1 ∨ a = b := by
    refine ⟨fun a b c hab hbc => ?_⟩
    rcases hab with hab | rfl
    · rcases hbc with hbc | rfl
      · exact .inl (hab.trans hbc)
      · exact .inl hab
    · exact hbc
  have hpw : (l.insertionSort fun a b => a.1 ≤ b.1).Pairwise fun a b => a.1 = b.1 → a = b :=
    (List.isChain_iff_pairwise.mp h).imp fun hab heq => by
      rcases hab with hlt | rfl
      · omega
      · rfl
  have : Std.Symm fun a b : Nat × α => a.1 = b.1 → a = b :=
    ⟨fun _ _ h heq => (h heq.symm).symm⟩
  exact hpw.forall_of_forall (fun _ _ _ => rfl) ((List.mem_insertionSort _).mpr ha)
    ((List.mem_insertionSort _).mpr hb) hab

set_option maxRecDepth 20000 in
theorem numbers_isChain :
    ((registered.map fun e => (e.1.number, e.1.name)).insertionSort
      fun a b => a.1 ≤ b.1).IsChain fun a b => a.1 < b.1 ∨ a = b := by
  decide +kernel

set_option maxRecDepth 20000 in
theorem names_isChain :
    ((registered.map fun e => (Text.byteCode e.1.name, e.1.number)).insertionSort
      fun a b => a.1 ≤ b.1).IsChain fun a b => a.1 < b.1 ∨ a = b := by
  decide +kernel

/-- Two registered definitions have the same number exactly when they have the same name. -/
theorem number_eq_iff_name_eq {e e' : SyscallDef × SyscallCategory} (he : e ∈ registered)
    (he' : e' ∈ registered) : e.1.number = e'.1.number ↔ e.1.name = e'.1.name := by
  constructor
  · intro h
    exact congrArg Prod.snd (functional_of_isChain numbers_isChain
      (List.mem_map_of_mem (f := fun e => (e.1.number, e.1.name)) he)
      (List.mem_map_of_mem (f := fun e => (e.1.number, e.1.name)) he') h)
  · intro h
    exact congrArg Prod.snd (functional_of_isChain names_isChain
      (List.mem_map_of_mem (f := fun e => (Text.byteCode e.1.name, e.1.number)) he)
      (List.mem_map_of_mem (f := fun e => (Text.byteCode e.1.name, e.1.number)) he')
      (congrArg Text.byteCode h))

theorem registered_names_ascii : ∀ e ∈ registered, Text.IsAscii e.1.name := by
  decide +kernel

set_option maxRecDepth 20000 in
theorem registered_names_marks : ∀ e ∈ registered,
    ' ' ∉ Text.asciiChars e.1.name ∧ '(' ∉ Text.asciiChars e.1.name := by
  decide

/-- A name has no character that ends it in the output. -/
theorem marks_not_mem_name {e : SyscallDef × SyscallCategory} (he : e ∈ registered) :
    ' ' ∉ e.1.name.toList ∧ '(' ∉ e.1.name.toList := by
  rw [Text.toList_eq_asciiChars (registered_names_ascii e he)]
  exact registered_names_marks e he

/-- What is checked of the characters and the number of a name: it is not empty, it contains no
comma, it is no category, and without leading underscores it is no registered name. -/
theorem registered_names_check : ∀ e ∈ registered,
    Text.asciiChars e.1.name ≠ [] ∧ ',' ∉ Text.asciiChars e.1.name ∧
    Text.byteCode e.1.name ∉ categoryMap.map (fun c => Text.byteCode c.1) ∧
    ((Text.asciiChars e.1.name).head? = some '_' → ∀ e' ∈ registered,
      Text.byteCode e'.1.name ≠
        Text.byteCode (String.ofList ((Text.asciiChars e.1.name).dropWhile (· == '_')))) := by
  decide +kernel

/-- What the tracer relies on about the registered names: they are not empty, they contain no comma,
none is a category, and a name with leading underscores is not registered without them. -/
theorem registered_names : ∀ e ∈ registered, e.1.name ≠ "" ∧ ',' ∉ e.1.name.toList ∧
    categoryMap.lookup e.1.name = none ∧
    (Text.startsWith e.1.name "_" = true →
      ∀ e' ∈ registered, e'.1.name ≠ Text.lstrip '_' e.1.name) := by
  intro e he
  obtain ⟨hempty, hcomma, hcat, hstrip⟩ := registered_names_check e he
  rw [← Text.toList_eq_asciiChars (registered_names_ascii e he)] at hempty hcomma hstrip
  refine ⟨?_, hcomma, ?_, fun hunderscore e' he' hname => ?_⟩
  · rintro hname
    rw [hname] at hempty
    exact hempty rfl
  · cases hl : categoryMap.lookup e.1.name with
    | none => rfl
    | some category =>
      have hmem := List.mem_map_of_mem (f := fun c => Text.byteCode c.1) (Dict.mem_of_lookup hl)
      exact absurd hmem hcat
  · have hhead : e.1.name.toList.head? = some '_' := by
      obtain ⟨rest, hrest⟩ := List.isPrefixOf_iff_prefix.mp hunderscore
      rw [← hrest]
      rfl
    exact hstrip hhead e' he' (congrArg Text.byteCode hname)

/-! ## Lookups -/

namespace SyscallRegistry

theorem foldl_register (entries : List (SyscallDef × SyscallCategory)) (r : SyscallRegistry) :
    entries.foldl register r =
      ⟨entries.foldl (fun d e => d.set e.1.number e.1) r.byNumber,
        entries.foldl (fun d e => d.set e.1.name e.1) r.byName,
        entries.foldl (fun d e => d.set e.1.name e.2) r.categories⟩ := by
  induction entries generalizing r with
  | nil => rfl
  | cons e es ih => rw [List.foldl_cons, ih]; rfl

section

variable (entries : List (SyscallDef × SyscallCategory))

theorem foldl_lookupByName (name : String) :
    (entries.foldl register empty).lookupByName name =
      (entries.reverse.find? fun e => e.1.name = name).map Prod.fst := by
  rw [foldl_register]
  exact (Dict.get_foldl_set (fun e => e.1.name) Prod.fst entries .empty name).trans
    Option.or_none

theorem foldl_byNumber_get (number : Nat) :
    (entries.foldl register empty).byNumber.get number =
      (entries.reverse.find? fun e => e.1.number = number).map Prod.fst := by
  rw [foldl_register]
  exact (Dict.get_foldl_set (fun e => e.1.number) Prod.fst entries .empty number).trans
    Option.or_none

end

theorem init_lookupByName (name : String) :
    init.lookupByName name =
      (registered.reverse.find? fun e => e.1.name = name).map Prod.fst :=
  foldl_lookupByName registered name

theorem init_byNumber_get (number : Nat) :
    init.byNumber.get number =
      (registered.reverse.find? fun e => e.1.number = number).map Prod.fst :=
  foldl_byNumber_get registered number

theorem lookupByName_eq_some (h : init.lookupByName name = some d) :
    d.name = name ∧ ∃ category, (d, category) ∈ registered := by
  rw [init_lookupByName] at h
  obtain ⟨e, he, rfl⟩ := Option.map_eq_some_iff.mp h
  exact ⟨by simpa using List.find?_some he, e.2, List.mem_reverse.mp (List.mem_of_find?_eq_some he)⟩

/-- The definition of a name, found in the list of registered ones. -/
theorem exists_lookupByName (name : String) {p : SyscallDef → Bool}
    (h : ((registered.reverse.find? fun e => e.1.name = name).any fun e => p e.1) = true) :
    ∃ d, init.lookupByName name = some d ∧ d.name = name ∧ p d = true := by
  obtain ⟨e, he, hp⟩ := (Option.any_eq_true _ _).mp h
  have hname : e.1.name = name := by simpa using List.find?_some he
  exact ⟨e.1, by rw [init_lookupByName, he]; rfl, hname, hp⟩

/-- The last definition with the number of a registered one is the last one with its name. -/
theorem find?_number_eq {e : SyscallDef × SyscallCategory} (he : e ∈ registered) :
    (registered.reverse.find? fun e' => e'.1.number = e.1.number) =
      registered.reverse.find? fun e' => e'.1.name = e.1.name := by
  refine List.find?_congr fun e' he' => ?_
  rw [decide_eq_decide]
  exact number_eq_iff_name_eq (List.mem_reverse.mp he') he

/-- A definition that is found from the end by its number is found by its name. -/
theorem lookupByName_of_number (number : Nat) (e : SyscallDef × SyscallCategory)
    (h : (registered.reverse.find? fun e' => e'.1.number = number) = some e) :
    init.lookupByName e.1.name = some e.1 := by
  have hmem : e ∈ registered := List.mem_reverse.mp (List.mem_of_find?_eq_some h)
  obtain rfl : e.1.number = number := by simpa using List.find?_some h
  rw [init_lookupByName, ← find?_number_eq hmem, h]
  rfl

/-- `get_all_syscalls` gives the definitions that are found under their names. -/
theorem mem_getAllSyscalls_iff :
    d ∈ init.getAllSyscalls ↔ init.lookupByName d.name = some d := by
  unfold getAllSyscalls
  rw [Dict.mem_values_iff, init_lookupByName]
  simp only [init_byNumber_get]
  constructor
  · rintro ⟨number, h⟩
    obtain ⟨e, he, rfl⟩ := Option.map_eq_some_iff.mp h
    have hmem := List.mem_reverse.mp (List.mem_of_find?_eq_some he)
    obtain rfl : e.1.number = number := by simpa using List.find?_some he
    rwa [← find?_number_eq hmem]
  · intro h
    obtain ⟨e, he, rfl⟩ := Option.map_eq_some_iff.mp h
    have hmem := List.mem_reverse.mp (List.mem_of_find?_eq_some he)
    exact ⟨e.1.number, by rwa [find?_number_eq hmem]⟩

end SyscallRegistry

open SyscallRegistry

/-- A breakpoint is set at the name of every definition, and nowhere else. -/
theorem mem_syscallBreakpoints_iff :
    name ∈ syscallBreakpoints init ↔ ∃ d, init.lookupByName name = some d := by
  unfold syscallBreakpoints
  simp only [List.mem_map, mem_getAllSyscalls_iff]
  constructor
  · rintro ⟨d, hd, rfl⟩
    exact ⟨d, hd⟩
  · rintro ⟨d, hd⟩
    obtain ⟨rfl, -⟩ := lookupByName_eq_some hd
    exact ⟨d, hd, rfl⟩

/-- A name with leading underscores is not known without them. -/
theorem lookupByName_lstrip_eq_none (hd : init.lookupByName d.name = some d)
    (h : Text.startsWith d.name "_" = true) :
    init.lookupByName (Text.lstrip '_' d.name) = none := by
  obtain ⟨-, category, hmem⟩ := lookupByName_eq_some hd
  rw [init_lookupByName, Option.map_eq_none_iff, List.find?_eq_none]
  intro e' he'
  simpa using (registered_names _ hmem).2.2.2 h e' (List.mem_reverse.mp he')

/-! ## Evaluation -/

/-- The items whose number occurs neither in the bits of `seen` nor before them. -/
def newByNumber (seen : Nat) : List (SyscallDef × SyscallCategory) →
    List (SyscallDef × SyscallCategory)
  | [] => []
  | e :: es =>
    if seen.testBit e.1.number then newByNumber seen es
    else e :: newByNumber (seen ||| 1 <<< e.1.number) es

/-- Numbers tell the same registered definitions apart as names do. -/
theorem newByNumber_eq {entries : List (SyscallDef × SyscallCategory)}
    (hmem : ∀ e ∈ entries, e ∈ registered) {seen : Nat} {names : List String}
    (hseen : ∀ e ∈ entries, seen.testBit e.1.number = true ↔ e.1.name ∈ names) :
    newByNumber seen entries = Dict.newItems (fun e => e.1.name) names entries := by
  induction entries generalizing seen names with
  | nil => rfl
  | cons e es ih =>
    obtain ⟨he, hes⟩ := List.forall_mem_cons.mp hmem
    obtain ⟨hhead, htail⟩ := List.forall_mem_cons.mp hseen
    rw [newByNumber, Dict.newItems]
    by_cases hin : e.1.name ∈ names
    · rw [if_pos hin, if_pos (hhead.mpr hin)]
      exact ih hes htail
    · rw [if_neg hin, if_neg fun h => hin (hhead.mp h)]
      refine congrArg (e :: ·) (ih hes fun e' he' => ?_)
      rw [Nat.testBit_or, Bool.or_eq_true, htail e' he', List.mem_append, List.mem_singleton,
        Nat.one_shiftLeft, Nat.testBit_two_pow, decide_eq_true_iff,
        ← number_eq_iff_name_eq (hes e' he') he, eq_comm]

/-- The value of the last definition with this number. -/
def valueByNumber {ν : Type} (value : SyscallDef × SyscallCategory → ν)
    (e : SyscallDef × SyscallCategory) : ν :=
  ((registered.reverse.find? fun e' => e'.1.number = e.1.number).map value).getD (value e)

/-- The entries of a dictionary of all registered names, found by number. -/
def entriesByNumber {ν : Type} (value : SyscallDef × SyscallCategory → ν) : List (String × ν) :=
  (newByNumber 0 registered).map fun e => (e.1.name, valueByNumber value e)

theorem entriesByNumber_eq {ν : Type} (value : SyscallDef × SyscallCategory → ν) :
    (registered.foldl (fun d e => d.set e.1.name (value e)) (Dict.empty : Dict String ν)).entries =
      entriesByNumber value := by
  have hnew : newByNumber 0 registered = Dict.newItems (fun e => e.1.name) [] registered :=
    newByNumber_eq (fun _ he => he) (by simp)
  refine Dict.entries_eq_map _ _ ?_ fun e he => ?_
  · rw [hnew]
    exact Dict.keys_foldl_set_empty _ _ registered
  · have hmem : e ∈ registered := by
      rw [hnew] at he
      exact (Dict.newItems_sublist _ _ _).subset he
    have hsome : (registered.reverse.find? fun e' => e'.1.name = e.1.name).isSome = true := by
      rw [List.find?_isSome]
      exact ⟨e, List.mem_reverse.mpr hmem, by simp⟩
    rw [valueByNumber, find?_number_eq hmem]
    obtain ⟨e', he'⟩ := Option.isSome_iff_exists.mp hsome
    rw [he', Dict.get_foldl_set, he']
    rfl

/-- The dictionary of all registered names, in the form that concrete runs are evaluated with. -/
def dictByNumber {ν : Type} (value : SyscallDef × SyscallCategory → ν) : Dict String ν where
  entries := entriesByNumber value
  nodup_keys := by
    rw [← entriesByNumber_eq]
    exact Dict.nodup_keys _

theorem dictByNumber_eq {ν : Type} (value : SyscallDef × SyscallCategory → ν) :
    dictByNumber value = registered.foldl (fun d e => d.set e.1.name (value e)) .empty := by
  have h := entriesByNumber_eq value
  generalize registered.foldl (fun d e => d.set e.1.name (value e)) Dict.empty = d at h ⊢
  obtain ⟨entries, hnodup⟩ := d
  simp only [dictByNumber, Dict.mk.injEq]
  exact h.symm

namespace SyscallRegistry

def initByNumber : SyscallRegistry where
  byNumber := init.byNumber
  byName := dictByNumber Prod.fst
  categories := dictByNumber Prod.snd

theorem foldl_register_empty (entries : List (SyscallDef × SyscallCategory)) :
    entries.foldl register empty = ⟨(entries.foldl register empty).byNumber,
      entries.foldl (fun d e => d.set e.1.name e.1) .empty,
      entries.foldl (fun d e => d.set e.1.name e.2) .empty⟩ := by
  rw [foldl_register]
  rfl

theorem init_eq_initByNumber : init = initByNumber := by
  have h := foldl_register_empty registered
  rw [← dictByNumber_eq, ← dictByNumber_eq] at h
  exact h

end SyscallRegistry

/-- The tracer at its start, in the form that concrete runs are evaluated with. -/
def Tracer.initByNumber (options : Options) (filter : Filter) : Tracer :=
  { init options filter with
    registry := SyscallRegistry.initByNumber
    target := ⟨syscallBreakpoints SyscallRegistry.initByNumber, []⟩ }

theorem Tracer.init_eq_initByNumber (options : Options) (filter : Filter) :
    init options filter = initByNumber options filter := by
  unfold initByNumber
  rw [← SyscallRegistry.init_eq_initByNumber]
  rfl

end StraceMacos
