import DiagramMigrations.Proofs.Schema.Selection
import Mathlib.Data.List.Find

/-!
Diagrams that show the same elements. On which views an element is shown, how often and between
which others makes no difference to the schema, and neither does the order in which the maps that
types and association ends are looked up in hold their entries.
-/

set_option autoImplicit false
set_option relaxedAutoImplicit false

namespace DiagramMigrations

section Lookups

variable {α β κ : Type} [DecidableEq κ] {key : α → κ} {xs ys : List α}

/-- Of elements with different keys, a key finds the same one whatever their order. -/
theorem find?_key_of_perm (h : xs.Perm ys) (hkeys : (xs.map key).Nodup) (k : κ) :
    (xs.find? fun x ↦ key x = k) = ys.find? fun x ↦ key x = k := by
  apply List.find?_eq_find?_of_perm h
  intro x hx y hy
  have hxk : key x = k := of_decide_eq_true hx.2
  have hyk : key y = k := of_decide_eq_true hy.2
  exact List.inj_on_of_nodup_map hkeys hx.1 hy.1 (hxk.trans hyk.symm)

/-- What a search for a key gives, when it is made of the key alone. -/
theorem map_find?_key (xs : List α) (f : κ → β) (k : κ) :
    (xs.find? fun x ↦ key x = k).map (fun x ↦ f (key x)) =
      if k ∈ xs.map key then some (f k) else none := by
  induction xs with
  | nil => rfl
  | cons x xs ih =>
    by_cases hx : key x = k
    · simp [hx]
    · have hne : ¬ k = key x := fun h ↦ hx h.symm
      rw [List.find?_cons_of_neg (by simpa using hx), ih]
      simp [hne]

end Lookups

/-! ### Look-ups -/

section Extraction

variable {enumerations found : List Enumeration} {tables known : List Table}

/-- The type of an attribute does not depend on the order of the enumerations it is looked up in:
ids are distinct, and a search for a name gives the name that was searched for. -/
theorem ColumnType.ofAttribute_of_perm (h : found.Perm enumerations)
    (hids : (found.map Enumeration.id).Nodup) (a : Diagram.Attribute) :
    ofAttribute found a = ofAttribute enumerations a := by
  have hresolve : resolve? found (a.multiplicity.bind Size.parse?) a.declaredType =
      resolve? enumerations (a.multiplicity.bind Size.parse?) a.declaredType := by
    cases a.declaredType with
    | reference element => rw [resolve?, resolve?, find?_key_of_perm h hids]
    | name type =>
      have hnames : ∀ name, name ∈ found.map Enumeration.name ↔
          name ∈ enumerations.map Enumeration.name := fun name ↦ (h.map _).mem_iff
      simp only [resolve?, map_find?_key, hnames]
    | other value => rfl
  rw [ofAttribute, ofAttribute, hresolve]

theorem Table.ofClass_of_perm (h : found.Perm enumerations)
    (hids : (found.map Enumeration.id).Nodup) (c : Diagram.Class) :
    ofClass found c = ofClass enumerations c := by
  have hcolumn : ∀ a, Column.ofAttribute found a = Column.ofAttribute enumerations a := by
    intro a
    rw [Column.ofAttribute, Column.ofAttribute, ColumnType.ofAttribute_of_perm h hids]
  rw [ofClass, ofClass, funext hcolumn]

theorem Association.ofDiagram?_of_perm (h : known.Perm tables)
    (hids : (known.map Table.id).Nodup) (e : Diagram.Association) :
    ofDiagram? known e = ofDiagram? tables e := by
  simp only [ofDiagram?, find?_key_of_perm h hids]

end Extraction

/-- The schema of a diagram, with types looked up among enumerations and association ends among
tables. -/
def Schema.ofDiagramAmong (enumerations : List Enumeration) (tables : List Table) (d : Diagram) :
    Schema where
  name := d.name
  tables := d.tableClasses.map (Table.ofClass enumerations)
  enumerations := d.enumerationsOnce.map Enumeration.ofDiagram
  associations := d.tableAssociations.filterMap (Association.ofDiagram? tables)

/-- Whether a schema may come out of a diagram when the look-ups go through maps from ids to names.
A map holds the names in an order of its own, and a search for a name meets them in that order. -/
def Diagram.Yields (d : Diagram) (s : Schema) : Prop :=
  ∃ enumerations tables, enumerations.Perm (d.enumerationsOnce.map Enumeration.ofDiagram) ∧
    tables.Perm (d.tableClasses.map (Table.ofClass enumerations)) ∧
      s = .ofDiagramAmong enumerations tables d

/-! ### Views -/

namespace Schema

variable {d other : Diagram} {s : Schema}

/-- Whatever the order of the maps, it is the schema of the diagram that comes out. -/
theorem yields_iff : d.Yields s ↔ s = ofDiagram d := by
  constructor
  · rintro ⟨enumerations, tables, henumerations, htables, rfl⟩
    have henumerationIds : (enumerations.map Enumeration.id).Nodup :=
      (henumerations.map _).nodup_iff.mpr (enumerationIds_ofDiagram_nodup d)
    have hclasses : d.tableClasses.map (Table.ofClass enumerations) = (ofDiagram d).tables :=
      List.map_congr_left fun c _ ↦ Table.ofClass_of_perm henumerations henumerationIds c
    rw [hclasses] at htables
    have htableIds : (tables.map Table.id).Nodup :=
      (htables.map _).nodup_iff.mpr (ofDiagram_ids_nodup d)
    have hassociations : d.tableAssociations.filterMap (Association.ofDiagram? tables) =
        (ofDiagram d).associations :=
      List.filterMap_congr fun e _ ↦ Association.ofDiagram?_of_perm htables htableIds e
    rw [ofDiagramAmong, hclasses, hassociations]
    rfl
  · intro hs
    exact ⟨_, _, List.Perm.refl _, List.Perm.refl _, hs⟩

theorem ofDiagram_congr (hname : d.name = other.name) (hclasses : d.keptClasses = other.keptClasses)
    (henumerations : d.keptEnumerations = other.keptEnumerations) :
    ofDiagram d = ofDiagram other := by
  have hassociations : d.tableAssociations = other.tableAssociations := by
    rw [d.tableAssociations_eq, other.tableAssociations_eq, Diagram.keptAssociations,
      Diagram.keptAssociations, hclasses]
  rw [ofDiagram, ofDiagram, hname, hassociations, d.tableClasses_eq, other.tableClasses_eq,
    d.enumerationsOnce_eq, other.enumerationsOnce_eq, hclasses, henumerations]

/-- Diagrams of one name that agree in the classes kept as tables and in the enumerations kept have
one schema, however their views show them and in whatever order the maps hold the names. -/
theorem ofDiagram_eq_of_kept (hname : d.name = other.name)
    (hclasses : d.keptClasses = other.keptClasses)
    (henumerations : d.keptEnumerations = other.keptEnumerations) :
    ofDiagram d = ofDiagram other ∧
      ∀ s, (d.Yields s ↔ s = ofDiagram d) ∧ (other.Yields s ↔ s = ofDiagram d) := by
  have heq : ofDiagram d = ofDiagram other := ofDiagram_congr hname hclasses henumerations
  refine ⟨heq, fun s ↦ ⟨yields_iff, ?_⟩⟩
  rw [heq]
  exact yields_iff

end Schema

namespace Diagram

/-- A class of posts. A post has a state and a mood, and refers to the post that it answers. -/
def postClass : Class where
  id := "p"
  name := "Post"
  classification := " TABLE "
  attributes := [
    { name := "state", declaredType := .reference "s" },
    { name := "mood", declaredType := .name " Mood " }]
  owned := [.association ⟨"", ⟨"", "p"⟩, ⟨"", "p"⟩⟩]

/-- The class of posts before what it refers to. It is shown again under another name and without
its attributes, and so is the enumeration of its states, and there are elements that do not count.
-/
def scatteredPosts : Diagram where
  name := "Posts"
  elements := [
    .ofClass { id := "p", name := "Draft" },
    .ofClass postClass,
    .other,
    .ofEnumeration { id := "s", name := "State", literals := [{ name := "Open" }] },
    .ofClass { postClass with name := "Entry", attributes := [] },
    .ofEnumeration { id := "s", name := "Mood" },
    .ofEnumeration { id := "m", name := "Mood" }]

/-- The same elements, each shown once and the enumerations first. -/
def gatheredPosts : Diagram where
  name := "Posts"
  elements := [
    .ofEnumeration { id := "s", name := "State", literals := [{ name := "Open" }] },
    .ofEnumeration { id := "m", name := "Mood" },
    .ofClass postClass]

end Diagram

/-- A witness: the posts have one schema on both diagrams, with one association. -/
theorem Schema.ofDiagram_scatteredPosts :
    Diagram.scatteredPosts.name = Diagram.gatheredPosts.name ∧
      Diagram.scatteredPosts.keptClasses = Diagram.gatheredPosts.keptClasses ∧
      Diagram.scatteredPosts.keptEnumerations = Diagram.gatheredPosts.keptEnumerations ∧
      Diagram.scatteredPosts.elements ≠ Diagram.gatheredPosts.elements ∧
      ofDiagram .scatteredPosts = ofDiagram .gatheredPosts ∧
      (ofDiagram .gatheredPosts).associations.length = 1 ∧
      ∀ s, Diagram.scatteredPosts.Yields s ↔ Diagram.gatheredPosts.Yields s := by
  have hclasses : Diagram.scatteredPosts.keptClasses = Diagram.gatheredPosts.keptClasses := by
    decide
  have henumerations :
      Diagram.scatteredPosts.keptEnumerations = Diagram.gatheredPosts.keptEnumerations := by
    decide
  obtain ⟨heq, hyields⟩ := ofDiagram_eq_of_kept rfl hclasses henumerations
  exact ⟨rfl, hclasses, henumerations, by decide, heq, by decide,
    fun s ↦ (hyields s).1.trans (hyields s).2.symm⟩

end DiagramMigrations
