import DiagramMigrations.EnumClass.Registry
import DiagramMigrations.Proofs.FirstOccurrence
import DiagramMigrations.Proofs.Lists
import Mathlib.Data.Finset.Card
import Mathlib.Data.List.Nodup

/-!
The registry of enumerations as a map that keeps the order of insertion. Its index holds the
position of every entry, so that a name leads to the literals that are registered for it; a
registration changes what is found for its own name and for no other. After a run of registrations
the names therefore stand in the order of their first registration, and each leads to the literals
of the last enumeration that is called so.
-/

set_option autoImplicit false
set_option relaxedAutoImplicit false

namespace DiagramMigrations

/-- The last enumeration of a name. -/
def Enumeration.lastNamed? (es : List Enumeration) (name : String) : Option Enumeration :=
  es.reverse.find? fun e ↦ e.name = name

open Enumeration

variable {es : List Enumeration} {e : Enumeration} {name other : String}

theorem Enumeration.lastNamed?_cons (e : Enumeration) (es : List Enumeration) (name : String) :
    lastNamed? (e :: es) name =
      (lastNamed? es name).or (if e.name = name then some e else none) := by
  rw [lastNamed?, List.reverse_cons, List.find?_append, ← lastNamed?, List.find?_singleton]
  simp

theorem Enumeration.exists_lastNamed? (h : name ∈ es.map Enumeration.name) :
    ∃ e, lastNamed? es name = some e := by
  obtain ⟨e, he, rfl⟩ := List.mem_map.mp h
  exact Option.isSome_iff_exists.mp
    (List.find?_isSome.mpr ⟨e, List.mem_reverse.mpr he, by simp⟩)

/-- Of enumerations with different names, each is the last of its name. -/
theorem Enumeration.lastNamed?_of_nodup (hnames : (es.map Enumeration.name).Nodup) (he : e ∈ es) :
    lastNamed? es e.name = some e := by
  have hreverse : (es.reverse.map Enumeration.name).Nodup := by
    rw [List.map_reverse, List.nodup_reverse]
    exact hnames
  exact (find?_key_eq_some hreverse).mpr ⟨List.mem_reverse.mpr he, rfl⟩

namespace EnumRegistry

variable {r : EnumRegistry} {literals : List String} {i : Nat}

/-- Whether index and entries of a registry are in step: no name has two entries, and the index
holds the position of each. -/
structure InStep (r : EnumRegistry) : Prop where
  names_nodup : r.names.Nodup
  index_eq : r.index = r.names.zipIdx

theorem inStep_empty : InStep {} where
  names_nodup := List.nodup_nil
  index_eq := rfl

namespace InStep

theorem lookup_eq_some (h : r.InStep) :
    r.index.lookup name = some i ↔ r.names[i]? = some name := by
  rw [h.index_eq]
  constructor
  · intro hfound
    exact List.mem_zipIdx_iff_getElem?.mp (mem_of_lookup hfound)
  · intro hposition
    refine lookup_eq_some_of_unique (List.mem_zipIdx_iff_getElem?.mpr hposition) fun j hj ↦ ?_
    have hother : r.names[j]? = some name := List.mem_zipIdx_iff_getElem?.mp hj
    have hlt : j < r.names.length := (List.getElem?_eq_some_iff.mp hother).1
    exact (List.getElem?_inj hlt h.names_nodup).mp (hother.trans hposition.symm)

theorem lookup_eq_none (h : r.InStep) : r.index.lookup name = none ↔ name ∉ r.names := by
  rw [Option.eq_none_iff_forall_ne_some, List.mem_iff_getElem?, not_exists]
  exact forall_congr' fun i ↦ not_congr h.lookup_eq_some

end InStep

/-- Literals that are registered for a name that is known take the place of the old ones. -/
theorem names_modify (entries : List (String × List String)) (i : Nat) (literals : List String) :
    (entries.modify i fun entry ↦ (entry.1, literals)).map Prod.fst = entries.map Prod.fst := by
  refine List.ext_getElem? fun j ↦ ?_
  rw [List.getElem?_map, List.getElem?_map, List.getElem?_modify, Option.map_eq_map,
    Option.map_map]
  congr 1
  funext entry
  dsimp only [Function.comp]
  split_ifs <;> rfl

/-- The names after a registration: a new name comes last. -/
theorem InStep.names_insert (h : r.InStep) (name : String) (literals : List String) :
    (r.insert name literals).names = if name ∈ r.names then r.names else r.names ++ [name] := by
  unfold EnumRegistry.insert
  cases hfound : r.index.lookup name with
  | some i =>
    have hknown : name ∈ r.names := List.mem_of_getElem? (h.lookup_eq_some.mp hfound)
    rw [if_pos hknown]
    exact names_modify r.entries i literals
  | none =>
    rw [if_neg (h.lookup_eq_none.mp hfound)]
    exact List.map_append

theorem InStep.insert (h : r.InStep) (name : String) (literals : List String) :
    (r.insert name literals).InStep := by
  have hnames := h.names_insert name literals
  by_cases hknown : name ∈ r.names
  · rw [if_pos hknown] at hnames
    obtain ⟨i, hi⟩ := List.mem_iff_getElem?.mp hknown
    have hindex : (r.insert name literals).index = r.index := by
      rw [EnumRegistry.insert, h.lookup_eq_some.mpr hi]
    exact ⟨hnames ▸ h.names_nodup, by rw [hindex, hnames, h.index_eq]⟩
  · rw [if_neg hknown] at hnames
    have hindex : (r.insert name literals).index = r.index ++ [(name, r.entries.length)] := by
      rw [EnumRegistry.insert, h.lookup_eq_none.mpr hknown]
    refine ⟨?_, ?_⟩
    · rw [hnames, ← List.concat_eq_append]
      exact h.names_nodup.concat hknown
    · rw [hindex, hnames, h.index_eq, List.zipIdx_append, names, List.length_map, Nat.zero_add]
      rfl

theorem literals?_eq (r : EnumRegistry) (name : String) :
    r.literals? name = (r.index.lookup name).bind fun i ↦ (r.entries[i]?).map Prod.snd := by
  unfold literals?
  cases r.index.lookup name with
  | none => rfl
  | some i => cases hentry : r.entries[i]? <;> simp [hentry]

/-- A registration is found for its own name, and changes nothing for the others. -/
theorem InStep.literals?_insert (h : r.InStep) (name : String) (literals : List String)
    (other : String) : (r.insert name literals).literals? other =
      if other = name then some literals else r.literals? other := by
  rw [literals?_eq, literals?_eq, EnumRegistry.insert]
  cases hfound : r.index.lookup name with
  | some i =>
    have hi : r.names[i]? = some name := h.lookup_eq_some.mp hfound
    dsimp only
    split_ifs with hsame
    · subst other
      obtain ⟨entry, hentry, -⟩ := Option.map_eq_some_iff.mp (List.getElem?_map.symm.trans hi)
      rw [hfound, Option.bind_some, List.getElem?_modify, hentry]
      simp
    · cases hother : r.index.lookup other with
      | none => rfl
      | some j =>
        have hj : r.names[j]? = some other := h.lookup_eq_some.mp hother
        have hne : i ≠ j := fun heq ↦
          hsame (Option.some.inj (hj.symm.trans (heq ▸ hi)))
        rw [Option.bind_some, Option.bind_some, List.getElem?_modify, Option.map_eq_map]
        simp [hne]
  | none =>
    dsimp only
    rw [List.lookup_append]
    split_ifs with hsame
    · subst other
      simp [hfound]
    · rw [lookup_cons_of_ne hsame, List.lookup_nil, Option.or_none]
      cases hother : r.index.lookup other with
      | none => rfl
      | some j =>
        have hj : r.names[j]? = some other := h.lookup_eq_some.mp hother
        have hlt : j < r.entries.length := by
          simpa [names] using (List.getElem?_eq_some_iff.mp hj).1
        rw [Option.bind_some, Option.bind_some, List.getElem?_append_left hlt]

/-! ### Runs of registrations -/

theorem InStep.foldl_register (h : r.InStep) (es : List Enumeration) :
    (es.foldl register r).InStep := by
  induction es generalizing r with
  | nil => exact h
  | cons e es ih => exact ih (h.insert e.name e.literalNames)

/-- After a run of registrations a name leads to the literals of the last enumeration that is called
so, and to what was found before if there is none. -/
theorem InStep.literals?_foldl_register (h : r.InStep) (es : List Enumeration) (name : String) :
    (es.foldl register r).literals? name =
      ((lastNamed? es name).map literalNames).or (r.literals? name) := by
  induction es generalizing r with
  | nil => rfl
  | cons e es ih =>
    rw [List.foldl_cons, register, ih (h.insert e.name e.literalNames), lastNamed?_cons,
      h.literals?_insert]
    cases lastNamed? es name with
    | some last => rfl
    | none =>
      by_cases hname : name = e.name
      · subst name
        simp
      · simp [hname, Ne.symm hname]

theorem literals?_foldl_register (es : List Enumeration) (name : String) :
    (es.foldl register {}).literals? name = (lastNamed? es name).map literalNames := by
  have hfound := inStep_empty.literals?_foldl_register es name
  rwa [show literals? {} name = none from rfl, Option.or_none] at hfound

/-- The registry of a schema leads from a name to the literals of its last enumeration. -/
theorem literals?_ofSchema (s : Schema) (name : String) :
    (ofSchema s).literals? name = (lastNamed? s.enumerations name).map literalNames :=
  literals?_foldl_register s.enumerations name

theorem pairs?_ofSchema {s : Schema} {last : Enumeration}
    (h : lastNamed? s.enumerations name = some last) :
    (ofSchema s).pairs? name = some (last.literalNames.map fun l ↦ (l, l)) := by
  rw [pairs?, literals?_ofSchema, h]
  rfl

/-- A text is a key of a name exactly if the last enumeration of the name has it as a literal. -/
theorem isKey_ofSchema {s : Schema} {last : Enumeration}
    (h : lastNamed? s.enumerations name = some last) (text : String) :
    (ofSchema s).isKey name text = true ↔ text ∈ last.literalNames := by
  rw [isKey, keys?, pairs?_ofSchema h, Option.map_some, Option.getD_some, List.map_map,
    List.contains_iff_mem]
  simp

/-! ### What a registry answers -/

/-- A constant has its name as its value, so that either half of the pairs are the literals. -/
theorem map_pairs? {half : String × String → String} (hhalf : ∀ l, half (l, l) = l)
    (r : EnumRegistry) (name : String) :
    ((r.pairs? name).map fun pairs ↦ pairs.map half) = r.literals? name := by
  rw [pairs?, Option.map_map]
  refine (Option.map_congr fun literals _ ↦ ?_).trans Option.map_id'
  rw [Function.comp_apply, List.map_map]
  exact (List.map_congr_left fun l _ ↦ hhalf l).trans (List.map_id' literals)

theorem keys?_eq (r : EnumRegistry) (name : String) : r.keys? name = r.literals? name :=
  r.map_pairs? (fun _ ↦ rfl) name

theorem values?_eq (r : EnumRegistry) (name : String) : r.values? name = r.literals? name :=
  r.map_pairs? (fun _ ↦ rfl) name

theorem isKey_iff (r : EnumRegistry) (name text : String) :
    r.isKey name text = true ↔ ∃ literals, r.literals? name = some literals ∧ text ∈ literals := by
  rw [isKey, keys?_eq, List.contains_iff_mem]
  cases r.literals? name with
  | none => simp
  | some literals => simp

theorem isValue_eq (r : EnumRegistry) (name text : String) :
    r.isValue name text = r.isKey name text := by
  rw [isValue, isKey, values?_eq, keys?_eq]

/-- A registry whose index is in step knows the names of its entries. -/
theorem InStep.contains_iff (h : r.InStep) (name : String) :
    r.contains name = true ↔ name ∈ r.names := by
  rw [contains, Option.isSome_iff_ne_none, ne_eq, h.lookup_eq_none, not_not]

/-- The names after a run of registrations are those of the enumerations that come first under their
name. -/
theorem names_foldl_register (es : List Enumeration) :
    (es.foldl register {}).names =
      (firstOccurrences (fun _ ↦ True) Enumeration.name es).map Enumeration.name := by
  have hrun (r : EnumRegistry) (h : r.InStep) (kept : List Enumeration)
      (hkept : r.names = kept.map Enumeration.name) : (es.foldl register r).names =
        (es.foldl (keepNew Enumeration.name) kept).map Enumeration.name := by
    induction es generalizing r kept with
    | nil => exact hkept
    | cons e es ih =>
      refine ih _ (h.insert e.name e.literalNames) _ ?_
      rw [h.names_insert, hkept, keepNew]
      split_ifs
      · rfl
      · rw [List.map_append, List.map_singleton]
  rw [← firstsBy_eq]
  exact hrun {} inStep_empty [] rfl

/-- Whether a registry answers as enumerations that were registered one after the other demand:
names in the order of their first registration, each with the literals of its last one, and
positions that exist. -/
structure Answers (r : EnumRegistry) (es : List Enumeration) : Prop where
  names_eq : r.names =
    (firstOccurrences (fun _ ↦ True) Enumeration.name es).map Enumeration.name
  size_eq : r.size = (es.map Enumeration.name).toFinset.card
  contains_iff (name : String) : r.contains name = true ↔ name ∈ es.map Enumeration.name
  keys_eq (name : String) : r.keys? name = (lastNamed? es name).map literalNames
  values_eq (name : String) : r.values? name = (lastNamed? es name).map literalNames
  isKey_iff (name text : String) :
    r.isKey name text = true ↔ ∃ last, lastNamed? es name = some last ∧ text ∈ last.literalNames
  isValue_iff (name text : String) :
    r.isValue name text = true ↔ ∃ last, lastNamed? es name = some last ∧ text ∈ last.literalNames
  accepts_iff (name text : String) :
    r.accepts name text = true ↔ ∃ last, lastNamed? es name = some last ∧ text ∈ last.literalNames
  position_lt {name : String} {i : Nat} : (name, i) ∈ r.index → i < r.entries.length

/-- A registry is a map that keeps the order of insertion: after every run of registrations it
answers as the enumerations demand. -/
theorem answers_foldl_register (es : List Enumeration) : (es.foldl register {}).Answers es := by
  have hstep : (es.foldl register {}).InStep := inStep_empty.foldl_register es
  have hnames := names_foldl_register es
  have hliterals := literals?_foldl_register es
  have hkey (name text : String) : isKey (es.foldl register {}) name text = true ↔
      ∃ last, lastNamed? es name = some last ∧ text ∈ last.literalNames := by
    simp [isKey_iff, hliterals]
  generalize es.foldl register {} = r at *
  have hmem (name : String) : name ∈ r.names ↔ name ∈ es.map Enumeration.name := by
    rw [hnames, mem_firstOccurrences_keys]
  exact {
    names_eq := hnames
    size_eq := by
      have hset : (es.map Enumeration.name).toFinset = r.names.toFinset :=
        Finset.ext fun name ↦ by rw [List.mem_toFinset, List.mem_toFinset, hmem]
      rw [hset, List.toFinset_card_of_nodup hstep.names_nodup, names, List.length_map, size]
    contains_iff := fun name ↦ (hstep.contains_iff name).trans (hmem name)
    keys_eq := fun name ↦ (r.keys?_eq name).trans (hliterals name)
    values_eq := fun name ↦ (r.values?_eq name).trans (hliterals name)
    isKey_iff := hkey
    isValue_iff := fun name text ↦ by rw [isValue_eq, hkey]
    accepts_iff := fun name text ↦ by rw [accepts, isValue_eq, Bool.or_self, hkey]
    position_lt := fun {name i} hposition ↦ by
      rw [hstep.index_eq] at hposition
      simpa [names] using List.snd_lt_of_mem_zipIdx hposition }

end EnumRegistry

end DiagramMigrations
