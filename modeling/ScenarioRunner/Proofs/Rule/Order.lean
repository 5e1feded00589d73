import Mathlib.Data.List.Basic
import ScenarioRunner.Interpretation
import ScenarioRunner.Proofs.Except

/-! The order in which rules are tried. Every valid definition of two tables has an entry, which
says where the definition stands and which rule it gives; a registry tries the rules of all entries,
and earlier entries before later ones. A step is therefore taken by the first entry, in this order,
whose expression is found in it. -/
namespace ScenarioRunner

section Sorting

variable {α β : Type} {key : α → Int}

/-- Inserting adds one element to a list. -/
theorem mem_insertDown {a b : α} {l : List α} : b ∈ insertDown key a l ↔ b = a ∨ b ∈ l := by
  induction l with
  | nil => simp [insertDown]
  | cons c rest ih =>
      rw [insertDown]
      split
      · exact List.mem_cons
      · rw [List.mem_cons, ih, List.mem_cons]
        exact or_left_comm

/-- Sorting keeps the elements of a list. -/
theorem mem_sortDown {a : α} {l : List α} : a ∈ sortDown key l ↔ a ∈ l := by
  induction l with
  | nil => rfl
  | cons b rest ih =>
      rw [sortDown, List.foldr_cons, ← sortDown, mem_insertDown, ih, List.mem_cons]

theorem map_insertDown (f : α → β) (key : β → Int) (a : α) (l : List α) :
    (insertDown (fun a => key (f a)) a l).map f = insertDown key (f a) (l.map f) := by
  induction l with
  | nil => rfl
  | cons b rest ih =>
      rw [insertDown, List.map_cons, insertDown]
      split
      · rfl
      · rw [List.map_cons, ih]

/-- Sorting by a key of images is sorting the images. -/
theorem map_sortDown (f : α → β) (key : β → Int) (l : List α) :
    (sortDown (fun a => key (f a)) l).map f = sortDown key (l.map f) := by
  induction l with
  | nil => rfl
  | cons a rest ih =>
      rw [sortDown, List.foldr_cons, ← sortDown, map_insertDown, ih]
      rfl

/-- Higher keys stand first, and of equal ones the one that is before the other. -/
def Ranked (key : α → Int) (Before : α → α → Prop) (a b : α) : Prop :=
  key b < key a ∨ key a = key b ∧ Before a b

/-- Inserting keeps a list ranked if the new element belongs before all that are equal to it. -/
theorem pairwise_insertDown {Before : α → α → Prop} {a : α} {l : List α}
    (hSorted : l.Pairwise (Ranked key Before)) (hBefore : ∀ b ∈ l, Before a b) :
    (insertDown key a l).Pairwise (Ranked key Before) := by
  induction l with
  | nil => simp [insertDown]
  | cons b rest ih =>
      obtain ⟨hHead, hTail⟩ := List.pairwise_cons.mp hSorted
      obtain ⟨hHere, hLater⟩ := List.forall_mem_cons.mp hBefore
      rw [insertDown]
      split
      · rename_i hLower
        -- the list is sorted, so what is no lower than its head is no lower than all of it
        have hAll : ∀ c ∈ b :: rest, key c ≤ key a := by
          refine List.forall_mem_cons.mpr ⟨hLower, fun c hc => ?_⟩
          rcases hHead c hc with hLess | ⟨hSame, -⟩ <;> omega
        refine List.pairwise_cons.mpr ⟨fun c hc => ?_, hSorted⟩
        rcases Int.lt_or_eq_of_le (hAll c hc) with hLess | hSame
        · exact .inl hLess
        · exact .inr ⟨hSame.symm, hBefore c hc⟩
      · rename_i hHigher
        refine List.pairwise_cons.mpr ⟨fun c hc => ?_, ih hTail hLater⟩
        rcases mem_insertDown.mp hc with rfl | hc
        · exact .inl (Int.not_le.mp hHigher)
        · exact hHead c hc

/-- The sort is stable. -/
theorem pairwise_sortDown {Before : α → α → Prop} {l : List α} (hBefore : l.Pairwise Before) :
    (sortDown key l).Pairwise (Ranked key Before) := by
  induction l with
  | nil => exact .nil
  | cons a rest ih =>
      obtain ⟨hFirst, hRest⟩ := List.pairwise_cons.mp hBefore
      exact pairwise_insertDown (ih hRest) fun b hb => hFirst b (mem_sortDown.mp hb)

end Sorting

namespace Rule

/-- The definition is valid and the rule is its rule: the expression can be read, and the engine is
one that is known or is left open. -/
structure IsOf (rule : Rule) (d : RuleDefinition) : Prop where
  pattern : compileMatcher d.pattern = .ok rule.pattern
  engine : engineOf d = some rule.engine
  name : rule.name = d.name
  groups : rule.groups = d.groups
  priority : rule.priority = d.priority
  description : rule.description = d.description
  template : rule.template = d.template

/-- A definition gives a rule of its kind just when the rule is of the definition. -/
theorem ofDefinition?_eq_some_iff {kind : String} {own : Bool} {d : RuleDefinition} {rule : Rule} :
    ofDefinition? kind own d = .ok (some rule) ↔
      rule.kind = kind ∧ rule.builtin = own ∧ rule.IsOf d := by
  unfold ofDefinition?
  constructor
  · intro hRule
    split at hRule
    · simp at hRule
    · simp at hRule
    · rename_i pattern hPattern
      obtain ⟨engine, hEngine, rfl⟩ := Option.map_eq_some_iff.mp (Except.ok.inj hRule)
      exact ⟨rfl, rfl, hPattern, hEngine, rfl, rfl, rfl, rfl, rfl⟩
  · rintro ⟨rfl, rfl, hOf⟩
    simp only [hOf.pattern, hOf.engine, Option.map_some, ← hOf.name, ← hOf.groups, ← hOf.priority,
      ← hOf.description, ← hOf.template]

/-- A definition fails only for a count that is too large. -/
theorem ofDefinition?_eq_error_iff {kind : String} {own : Bool} {d : RuleDefinition} :
    (∃ fault, ofDefinition? kind own d = .error fault) ↔
      compileMatcher d.pattern = .error .countTooLarge := by
  unfold ofDefinition?
  rcases compileMatcher d.pattern with ⟨_ | _⟩ | pattern <;> simp

/-- So does a list of definitions, for any one of them. -/
theorem ofDefinitions_eq_error_iff {kind : String} {own : Bool} {ds : List RuleDefinition} :
    (∃ fault, ofDefinitions kind own ds = .error fault) ↔
      ∃ d ∈ ds, compileMatcher d.pattern = .error .countTooLarge := by
  simp only [← @ofDefinition?_eq_error_iff kind own, ← mapM_eq_error_iff]
  rw [ofDefinitions]
  cases ds.mapM (ofDefinition? kind own) <;> simp [bind, Except.bind, pure, Except.pure]

end Rule

/-- A rule with its place in two tables: the position of its kind in the order in which kinds are
tried, and the position of its definition in the list of that kind, in the table that it is from. -/
structure Entry where
  kind : Nat
  index : Nat
  rule : Rule

/-- The order in which rules are tried: by kind, then the higher priority first, then builtin rules
before custom ones, then as declared. -/
def Entry.Precedes (e f : Entry) : Prop :=
  e.kind < f.kind ∨ e.kind = f.kind ∧
    (f.rule.priority < e.rule.priority ∨ e.rule.priority = f.rule.priority ∧
      (e.rule.builtin = true ∧ f.rule.builtin = false ∨
        e.rule.builtin = f.rule.builtin ∧ e.index < f.index))

/-- No two entries precede each other. -/
theorem Entry.Precedes.asymm {e f : Entry} (hOrder : e.Precedes f) : ¬ f.Precedes e := by
  intro hBack
  rcases hOrder with h | ⟨hKind, h | ⟨hPriority, ⟨hOwn, hAdded⟩ | ⟨hTable, hIndex⟩⟩⟩ <;>
    rcases hBack with h' | ⟨hKind', h' | ⟨hPriority', ⟨hOwn', hAdded'⟩ | ⟨hTable', hIndex'⟩⟩⟩ <;>
    first
    | omega
    | simp_all

namespace Registry

variable (builtin custom : RuleTable)

/-- The definitions of a kind in one of two tables. -/
def declared (kind : String) (own : Bool) : List RuleDefinition :=
  ((if own then builtin else custom).get? kind).getD []

/-- At the place of the entry stands a valid definition, of which the entry has the rule. -/
def Holds (e : Entry) : Prop :=
  (kindsOf builtin custom)[e.kind]? = some e.rule.kind ∧
    ∃ d, (declared builtin custom e.rule.kind e.rule.builtin)[e.index]? = some d ∧ e.rule.IsOf d

/-- The entries of the definitions of one kind in one table. -/
def entriesFrom (place : Nat) (kind : String) (own : Bool) : List Entry :=
  (declared builtin custom kind own).zipIdx.filterMap fun (d, i) =>
    (Rule.ofDefinition? kind own d).toOption.join.map fun rule => ⟨place, i, rule⟩

def entriesOf (place : Nat) (kind : String) : List Entry :=
  sortDown (fun e => e.rule.priority)
    (entriesFrom builtin custom place kind true ++ entriesFrom builtin custom place kind false)

/-- The entries of two tables as they are tried. -/
def entries : List Entry :=
  (kindsOf builtin custom).zipIdx.flatMap fun (kind, place) => entriesOf builtin custom place kind

variable {builtin custom}

/-- The entries from a table are its valid definitions, with the places at which they are declared.
-/
theorem mem_entriesFrom_iff {e : Entry} {place : Nat} {kind : String} {own : Bool} :
    e ∈ entriesFrom builtin custom place kind own ↔
      e.kind = place ∧ e.rule.kind = kind ∧ e.rule.builtin = own ∧
        ∃ d, (declared builtin custom kind own)[e.index]? = some d ∧ e.rule.IsOf d := by
  obtain ⟨k, i, rule⟩ := e
  have hJoin (d : RuleDefinition) :
      (Rule.ofDefinition? kind own d).toOption.join = some rule ↔
        Rule.ofDefinition? kind own d = .ok (some rule) := by
    rcases Rule.ofDefinition? kind own d with _ | _ | _ <;> simp [Except.toOption]
  simp only [entriesFrom, List.mem_filterMap, Prod.exists, List.mem_zipIdx_iff_getElem?,
    Option.map_eq_some_iff, Entry.mk.injEq]
  constructor
  · rintro ⟨d, _, hAt, _, hRule, rfl, rfl, rfl⟩
    obtain ⟨hKind, hOwn, hOf⟩ := Rule.ofDefinition?_eq_some_iff.mp ((hJoin d).mp hRule)
    exact ⟨rfl, hKind, hOwn, d, hAt, hOf⟩
  · rintro ⟨rfl, hKind, hOwn, d, hAt, hOf⟩
    have hRule := Rule.ofDefinition?_eq_some_iff.mpr ⟨hKind, hOwn, hOf⟩
    exact ⟨d, i, hAt, rule, (hJoin d).mpr hRule, rfl, rfl, rfl⟩

/-- All entries together are the valid definitions of both tables. -/
theorem mem_entries_iff {e : Entry} : e ∈ entries builtin custom ↔ Holds builtin custom e := by
  simp only [entries, entriesOf, List.mem_flatMap, Prod.exists, List.mem_zipIdx_iff_getElem?,
    mem_sortDown, List.mem_append, mem_entriesFrom_iff]
  constructor
  · rintro ⟨kind, place, hKind, h | h⟩ <;> obtain ⟨rfl, rfl, hOwn, hDefinition⟩ := h <;>
      exact ⟨hKind, hOwn ▸ hDefinition⟩
  · rintro ⟨hKind, hDefinition⟩
    refine ⟨e.rule.kind, e.kind, hKind, ?_⟩
    cases hOwn : e.rule.builtin with
    | true => exact .inl ⟨rfl, rfl, rfl, hOwn ▸ hDefinition⟩
    | false => exact .inr ⟨rfl, rfl, rfl, hOwn ▸ hDefinition⟩

/-- Entries from one table are in the order of their declaration. -/
theorem pairwise_entriesFrom {place : Nat} {kind : String} {own : Bool} :
    (entriesFrom builtin custom place kind own).Pairwise fun e f =>
      e.rule.builtin = f.rule.builtin ∧ e.index < f.index := by
  have hIndex : (entriesFrom builtin custom place kind own).Pairwise fun e f =>
      e.index < f.index := by
    refine List.pairwise_filterMap.mpr ?_
    refine List.pairwise_iff_getElem.mpr fun i j hi hj hij e he f hf => ?_
    simp only [List.getElem_zipIdx, Nat.zero_add, Option.map_eq_some_iff] at he hf
    obtain ⟨_, _, rfl⟩ := he
    obtain ⟨_, _, rfl⟩ := hf
    exact hij
  refine hIndex.imp_of_mem fun he hf hLess => ⟨?_, hLess⟩
  rw [(mem_entriesFrom_iff.mp he).2.2.1, (mem_entriesFrom_iff.mp hf).2.2.1]

theorem kind_of_mem_entriesOf {e : Entry} {place : Nat} {kind : String}
    (hMem : e ∈ entriesOf builtin custom place kind) : e.kind = place := by
  rw [entriesOf, mem_sortDown, List.mem_append, mem_entriesFrom_iff, mem_entriesFrom_iff]
    at hMem
  rcases hMem with h | h <;> exact h.1

/-- Within a kind, sorting by priority leaves rules of one priority as they were: builtin before
custom, and in the order of their declaration. -/
theorem pairwise_entriesOf {place : Nat} {kind : String} :
    (entriesOf builtin custom place kind).Pairwise Entry.Precedes := by
  have hBefore : (entriesFrom builtin custom place kind true ++
      entriesFrom builtin custom place kind false).Pairwise fun e f =>
        e.rule.builtin = true ∧ f.rule.builtin = false ∨
          e.rule.builtin = f.rule.builtin ∧ e.index < f.index := by
    refine List.pairwise_append.mpr ⟨pairwise_entriesFrom.imp .inr, pairwise_entriesFrom.imp .inr,
      fun e he f hf => .inl ?_⟩
    exact ⟨(mem_entriesFrom_iff.mp he).2.2.1, (mem_entriesFrom_iff.mp hf).2.2.1⟩
  refine (pairwise_sortDown hBefore).imp_of_mem fun he hf hOrder => .inr ⟨?_, hOrder⟩
  rw [kind_of_mem_entriesOf he, kind_of_mem_entriesOf hf]

/-- Entries stand in the order in which they precede one another. -/
theorem pairwise_entries : (entries builtin custom).Pairwise Entry.Precedes := by
  refine List.pairwise_flatMap.mpr ⟨fun ⟨kind, place⟩ _ => pairwise_entriesOf, ?_⟩
  refine List.pairwise_iff_getElem.mpr fun i j hi hj hij e he f hf => .inl ?_
  simp only [List.getElem_zipIdx, Nat.zero_add] at he hf
  rwa [kind_of_mem_entriesOf he, kind_of_mem_entriesOf hf]

/-- The rules of the entries are those that are made of the definitions. -/
theorem map_rule_entriesFrom {place : Nat} {kind : String} {own : Bool} {rules : List Rule}
    (hRules : Rule.ofDefinitions kind own (declared builtin custom kind own) = .ok rules) :
    (entriesFrom builtin custom place kind own).map (·.rule) = rules := by
  obtain ⟨made, hMade, hRules⟩ := bind_eq_ok_iff.mp hRules
  obtain rfl : made.filterMap id = rules := pure_eq_ok_iff.mp hRules
  calc (entriesFrom builtin custom place kind own).map (·.rule)
    _ = (declared builtin custom kind own).zipIdx.filterMap fun entry =>
          (Rule.ofDefinition? kind own entry.1).toOption.join := by
        simp [entriesFrom, List.map_filterMap, Function.comp_def]
    _ = (((declared builtin custom kind own).zipIdx.map Prod.fst).map
          (Rule.ofDefinition? kind own)).filterMap fun made => made.toOption.join := by
        simp only [List.filterMap_map, Function.comp_def]
    _ = made.filterMap id := by
        simp only [List.zipIdx_map_fst, map_eq_of_mapM_eq_ok hMade, List.filterMap_map,
          Function.comp_def, Except.toOption, Option.join_some]
        rfl

/-- A bucket holds the rules of its entries in their ranking. -/
theorem bucket_eq_of_ok {kind : String} {rules : String × List Rule} (place : Nat)
    (hBucket : bucket builtin custom kind = .ok rules) :
    rules.2 = (entriesOf builtin custom place kind).map (·.rule) := by
  obtain ⟨own, hOwn, hBucket⟩ := bind_eq_ok_iff.mp hBucket
  obtain ⟨added, hAdded, hBucket⟩ := bind_eq_ok_iff.mp hBucket
  obtain rfl : (kind, byPriority (own ++ added)) = rules := pure_eq_ok_iff.mp hBucket
  rw [entriesOf, map_sortDown Entry.rule Rule.priority, List.map_append, map_rule_entriesFrom hOwn,
    map_rule_entriesFrom hAdded, byPriority]

/-- A registry has the rules of the entries, in their order. -/
theorem rules_eq_of_build {registry : Registry} (hBuild : build builtin custom = .ok registry) :
    registry.rules = (entries builtin custom).map (·.rule) := by
  obtain ⟨buckets, hBuckets, hBuild⟩ := bind_eq_ok_iff.mp hBuild
  obtain rfl : ⟨buckets⟩ = registry := pure_eq_ok_iff.mp hBuild
  have hAll := map_eq_of_mapM_eq_ok hBuckets
  let rulesIn (made : Except Fault (String × List Rule)) : List Rule :=
    made.toOption.elim [] (·.2)
  have hPlaced : ∀ entry ∈ (kindsOf builtin custom).zipIdx,
      rulesIn (bucket builtin custom entry.1) =
        (entriesOf builtin custom entry.2 entry.1).map (·.rule) := by
    intro entry hEntry
    have hKind : entry.1 ∈ kindsOf builtin custom :=
      List.mem_of_getElem? (List.mem_zipIdx_iff_getElem?.mp hEntry)
    obtain ⟨rules, -, hRules⟩ := List.mem_map.mp (hAll ▸ List.mem_map_of_mem hKind)
    rw [← hRules, ← bucket_eq_of_ok entry.2 hRules.symm]
    rfl
  calc buckets.flatMap (·.2)
    _ = (((kindsOf builtin custom).zipIdx.map Prod.fst).map (bucket builtin custom)).flatMap
          rulesIn := by
        rw [List.zipIdx_map_fst, hAll, List.flatMap_map]
        rfl
    _ = (kindsOf builtin custom).zipIdx.flatMap fun entry =>
          (entriesOf builtin custom entry.2 entry.1).map (·.rule) := by
        rw [List.flatMap_map, List.flatMap_map]
        exact List.flatMap_congr hPlaced
    _ = (entries builtin custom).map (·.rule) := by
        rw [entries, List.map_flatMap]

/-- A bucket fails just when one of its definitions has a count that is too large. -/
theorem bucket_eq_error_iff {kind : String} :
    (∃ fault, bucket builtin custom kind = .error fault) ↔
      ∃ own, ∃ d ∈ declared builtin custom kind own,
        Rule.compileMatcher d.pattern = .error .countTooLarge := by
  have hTable (own : Bool) :=
    @Rule.ofDefinitions_eq_error_iff kind own (declared builtin custom kind own)
  rw [Bool.exists_bool, ← hTable, ← hTable, bucket]
  simp only [bind_eq_error_iff, pure_ne_error, and_false, exists_false, or_false]
  cases hOwn : Rule.ofDefinitions kind true ((builtin.get? kind).getD []) with
  | error fault => simp [declared, hOwn]
  | ok own => simp [declared, hOwn]

/-- Building a registry fails on a repetition count that is too large, and on nothing else. -/
theorem build_eq_error_iff :
    (∃ fault, build builtin custom = .error fault) ↔
      ∃ kind ∈ kindsOf builtin custom, ∃ own, ∃ d ∈ declared builtin custom kind own,
        Rule.compileMatcher d.pattern = .error .countTooLarge := by
  simp only [← bucket_eq_error_iff, ← mapM_eq_error_iff, build, bind_eq_error_iff, pure_ne_error,
    and_false, exists_false, or_false]

example : Rule.compileMatcher "a\x7b99999999999\x7d" = .error .countTooLarge := by rfl

variable (builtin custom)

/-- The entry has its rule from a valid definition, and its expression is found in the text. -/
def Takes (text : String) (e : Entry) : Prop :=
  Holds builtin custom e ∧ (e.rule.pattern.search text.toList).isSome

/-- Of all entries that take a text, this one comes first. -/
def TakesFirst (text : String) (e : Entry) : Prop :=
  Takes builtin custom text e ∧ ∀ f, Takes builtin custom text f → f = e ∨ e.Precedes f

variable {builtin custom}

/-- Only one entry takes a text first. -/
theorem TakesFirst.unique {text : String} {e f : Entry} (he : TakesFirst builtin custom text e)
    (hf : TakesFirst builtin custom text f) : e = f := by
  rcases he.2 f hf.1 with hSame | hBefore
  · exact hSame.symm
  · exact (hf.2 e he.1).resolve_right hBefore.asymm

/-- The first match is by the entry that takes the text first. -/
theorem takesFirst_of_firstMatch? {registry : Registry} {text : String} {rule : Rule}
    {m : Regex.Match} (hBuild : build builtin custom = .ok registry)
    (hFirst : Interpretation.firstMatch? registry text = some (rule, m)) :
    ∃ e, TakesFirst builtin custom text e ∧ e.rule = rule ∧
      rule.pattern.search text.toList = some m := by
  rw [Interpretation.firstMatch?, rules_eq_of_build hBuild, List.findSome?_map] at hFirst
  obtain ⟨earlier, e, later, hSplit, hFound, hNone⟩ := List.findSome?_eq_some_iff.mp hFirst
  obtain ⟨_, hSearch, hPair⟩ := Option.map_eq_some_iff.mp hFound
  obtain ⟨rfl, rfl⟩ := Prod.mk.inj hPair
  have hHolds : Holds builtin custom e := mem_entries_iff.mp (by simp [hSplit])
  refine ⟨e, ⟨⟨hHolds, by simp [hSearch]⟩, fun f ⟨hOther, hOtherFound⟩ => ?_⟩, rfl, hSearch⟩
  have hMem := mem_entries_iff.mpr hOther
  rw [hSplit, List.mem_append, List.mem_cons] at hMem
  -- an entry that takes the text is not among those that were tried in vain
  rcases hMem with hEarlier | rfl | hLater
  · have hNotFound := hNone f hEarlier
    simp only [Function.comp_apply, Option.map_eq_none_iff] at hNotFound
    simp [hNotFound] at hOtherFound
  · exact .inl rfl
  · have hOrder : (entries builtin custom).Pairwise Entry.Precedes := pairwise_entries
    rw [hSplit, List.pairwise_append, List.pairwise_cons] at hOrder
    exact .inr (hOrder.2.1.1 f hLater)

end Registry

namespace Interpretation

open Registry

variable {registry : Registry} {step : String} {values : Assoc String}

/-- A step without a match falls back. -/
theorem interpret_of_none (hStep : trimmed step ≠ "")
    (hFirst : firstMatch? registry (Placeholder.resolve (trimmed step) values).text = none) :
    interpret registry step values =
      fallback (trimmed step) (Placeholder.resolve (trimmed step) values) none := by
  have hBlank : ¬ (trimmed step == "") = true := by simpa using hStep
  unfold interpret
  simp only [if_neg hBlank, hFirst]

/-- A step with a match is read by its rule. -/
theorem interpret_of_some (hStep : trimmed step ≠ "") {rule : Rule} {m : Regex.Match}
    (hFirst : firstMatch? registry (Placeholder.resolve (trimmed step) values).text =
      some (rule, m)) :
    interpret registry step values =
      ofMatch (trimmed step) (Placeholder.resolve (trimmed step) values) rule m := by
  have hBlank : ¬ (trimmed step == "") = true := by simpa using hStep
  unfold interpret
  simp only [if_neg hBlank, hFirst]

end Interpretation

end ScenarioRunner
