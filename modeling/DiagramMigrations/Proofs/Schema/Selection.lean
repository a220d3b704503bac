import DiagramMigrations.Proofs.Lists
import DiagramMigrations.Proofs.Schema.Extraction

/-!
What of a diagram is in its schema: the elements that count, each at its first place, and nothing
else. The references inside a schema lead to tables and enumerations of the same schema.
-/

set_option autoImplicit false
set_option relaxedAutoImplicit false

namespace DiagramMigrations

namespace Diagram

/-- The classes that are classified as tables, each where its id stands first. -/
def keptClasses (d : Diagram) : List Class :=
  firstOccurrences (fun _ ↦ True) Class.id (d.classes.filter fun c ↦
    Text.equalIgnoringAsciiCase (Text.trimmed c.classification) "table")

/-- The enumerations, each where its id stands first. -/
def keptEnumerations (d : Diagram) : List Enumeration :=
  firstOccurrences (fun _ ↦ True) Enumeration.id d.enumerations

/-- The associations of the kept classes in reading order: all without an id and, of those with an
id, each where it stands first. -/
def keptAssociations (d : Diagram) : List Association :=
  firstOccurrences (· ≠ "") Association.id
    (d.keptClasses.flatMap fun c ↦ c.owned.filterMap Owned.association?)

/-- Whether both ends of an association are kept classes. -/
def Connects (d : Diagram) (a : Association) : Prop :=
  a.referencing.reference ∈ d.keptClasses.map Class.id ∧
    a.referenced.reference ∈ d.keptClasses.map Class.id

instance (d : Diagram) : DecidablePred d.Connects := fun _ ↦ instDecidableAnd

theorem tableClasses_eq (d : Diagram) : d.tableClasses = d.keptClasses :=
  firstsBy_eq _ _

theorem enumerationsOnce_eq (d : Diagram) : d.enumerationsOnce = d.keptEnumerations :=
  firstsBy_eq _ _

theorem tableAssociations_eq (d : Diagram) : d.tableAssociations = d.keptAssociations := by
  rw [tableAssociations, tableClasses_eq, keptAssociations, ← foldl_keepFirst]
  rfl

end Diagram

/-! ### Associations -/

theorem nonBlank?_ne_empty {text kept : String} (h : nonBlank? text = some kept) : kept ≠ "" := by
  unfold nonBlank? at h
  dsimp only at h
  split_ifs at h with hblank
  exact Option.some.inj h ▸ hblank

theorem Naming.foreignKeyColumn_ne_empty (name : String) : foreignKeyColumn name ≠ "" := by
  intro h
  have htext : (identifier name).toList ++ ['_', 'i', 'd'] = [] := by
    simpa [foreignKeyColumn] using congrArg String.toList h
  simp at htext

namespace Association

/-- Whether an association of a schema is what becomes of one of the diagram. A column without a
name is named for the referenced table, or `id` at the referenced end. -/
structure IsFrom (tables : List Table) (e : Diagram.Association) (a : Association) : Prop where
  id : a.id = e.id
  referencingTable : a.referencingTable = e.referencing.reference
  referencedTable : a.referencedTable = e.referenced.reference
  referencingColumn : ∃ t ∈ tables, t.id = e.referenced.reference ∧
    a.referencingColumn = (nonBlank? e.referencing.name).getD (Naming.foreignKeyColumn t.name)
  referencedColumn : a.referencedColumn = (nonBlank? e.referenced.name).getD "id"

variable {tables : List Table} {e : Diagram.Association} {a : Association}

theorem exists_find_of_mem {id : String} (h : id ∈ tables.map Table.id) :
    ∃ t, (tables.find? fun t ↦ t.id = id) = some t := by
  obtain ⟨t, ht, rfl⟩ := List.mem_map.mp h
  exact Option.isSome_iff_exists.mp (List.find?_isSome.mpr ⟨t, ht, by simp⟩)

theorem IsFrom.columns_ne_empty (h : a.IsFrom tables e) :
    a.referencingColumn ≠ "" ∧ a.referencedColumn ≠ "" := by
  obtain ⟨t, -, -, hreferencing⟩ := h.referencingColumn
  constructor
  · rw [hreferencing]
    cases hname : nonBlank? e.referencing.name with
    | none => exact Naming.foreignKeyColumn_ne_empty t.name
    | some name => exact nonBlank?_ne_empty hname
  · rw [h.referencedColumn]
    cases hname : nonBlank? e.referenced.name with
    | none => decide
    | some name => exact nonBlank?_ne_empty hname

theorem ofDiagram?_isFrom (h : ofDiagram? tables e = some a) : a.IsFrom tables e := by
  obtain ⟨t, -, h⟩ := Option.bind_eq_some_iff.mp h
  obtain ⟨u, hu, h⟩ := Option.bind_eq_some_iff.mp h
  obtain rfl := Option.some.inj h
  have huid : u.id = e.referenced.reference := by simpa using List.find?_some hu
  exact ⟨rfl, rfl, rfl, ⟨u, List.mem_of_find?_eq_some hu, huid, rfl⟩, rfl⟩

/-- An association becomes one of the schema if its ends are tables. -/
theorem ofDiagram?_isSome_iff : (ofDiagram? tables e).isSome ↔
    e.referencing.reference ∈ tables.map Table.id ∧
      e.referenced.reference ∈ tables.map Table.id := by
  constructor
  · intro h
    obtain ⟨a, ha⟩ := Option.isSome_iff_exists.mp h
    have hends := ofDiagram?_ends ha
    rwa [(ofDiagram?_isFrom ha).referencingTable, (ofDiagram?_isFrom ha).referencedTable] at hends
  · rintro ⟨hreferencing, hreferenced⟩
    obtain ⟨t, ht⟩ := exists_find_of_mem hreferencing
    obtain ⟨u, hu⟩ := exists_find_of_mem hreferenced
    rw [ofDiagram?, ht, hu]
    rfl

end Association

/-! ### Types -/

namespace ColumnType

variable {enumerations : List Enumeration} {name : String}

theorem name_mem_of_find {p : Enumeration → Bool}
    (h : (enumerations.find? p).map (fun e ↦ enumeration e.name) = some (enumeration name)) :
    name ∈ enumerations.map Enumeration.name := by
  obtain ⟨e, he, hname⟩ := Option.map_eq_some_iff.mp h
  cases hname
  exact List.mem_map_of_mem (List.mem_of_find?_eq_some he)

theorem name_mem_of_resolve {size : Option Size} {type : Diagram.AttributeType}
    (h : resolve? enumerations size type = some (enumeration name)) :
    name ∈ enumerations.map Enumeration.name := by
  cases type with
  | reference element => exact name_mem_of_find h
  | name text =>
    rw [resolve?] at h
    cases hkind : ColumnKind.parse? text with
    | some kind =>
      rw [hkind] at h
      cases h
    | none =>
      rw [hkind] at h
      exact name_mem_of_find h
  | other value => cases h

/-- An enumeration that the type of an attribute names is one of the enumerations. -/
theorem name_mem_of_ofAttribute {a : Diagram.Attribute}
    (h : ofAttribute enumerations a = enumeration name) :
    name ∈ enumerations.map Enumeration.name := by
  unfold ofAttribute at h
  cases htype : resolve? enumerations (a.multiplicity.bind Size.parse?) a.declaredType with
  | none =>
    rw [htype] at h
    cases h
  | some type =>
    rw [htype, Option.getD_some] at h
    exact name_mem_of_resolve (htype.trans (congrArg some h))

end ColumnType

namespace Schema

/-- What a schema takes from its diagram. -/
structure IsFrom (s : Schema) (d : Diagram) : Prop where
  name : s.name = d.name
  tables : s.tables = d.keptClasses.map fun c ↦
    { id := c.id, name := c.name, columns := c.attributes.map (Column.ofAttribute s.enumerations) }
  enumerations : s.enumerations = d.keptEnumerations.map Enumeration.ofDiagram
  tableIds : (s.tables.map Table.id).Nodup
  enumerationIds : (s.enumerations.map Enumeration.id).Nodup
  associationIds : ((s.associations.map Association.id).filter (· ≠ "")).Nodup
  enumerationTypes : ∀ t ∈ s.tables, ∀ c ∈ t.columns, ∀ name, c.type = .enumeration name →
    name ∈ s.enumerations.map Enumeration.name
  ends : ∀ a ∈ s.associations, a.referencingTable ∈ s.tables.map Table.id ∧
    a.referencedTable ∈ s.tables.map Table.id ∧
    a.referencingColumn ≠ "" ∧ a.referencedColumn ≠ ""
  associations : List.Forall₂ (fun e a ↦ Association.IsFrom s.tables e a)
    (d.keptAssociations.filter fun a ↦ d.Connects a) s.associations

theorem tableIds_ofDiagram (d : Diagram) :
    (ofDiagram d).tables.map Table.id = d.keptClasses.map Diagram.Class.id := by
  rw [← d.tableClasses_eq]
  exact List.map_map

theorem enumerationIds_ofDiagram_nodup (d : Diagram) :
    ((ofDiagram d).enumerations.map Enumeration.id).Nodup := by
  change ((d.enumerationsOnce.map Enumeration.ofDiagram).map Enumeration.id).Nodup
  rw [List.map_map]
  exact firstsBy_keys_nodup Diagram.Enumeration.id _

/-- The associations of a schema are what becomes of the kept ones that connect kept classes. -/
theorem associations_ofDiagram (d : Diagram) :
    List.Forall₂ (fun e a ↦ Association.IsFrom (ofDiagram d).tables e a)
      (d.keptAssociations.filter fun a ↦ d.Connects a) (ofDiagram d).associations := by
  rw [← d.tableAssociations_eq]
  refine forall₂_filterMap_of_isSome (fun e ↦ ?_) (fun e a ↦ Association.ofDiagram?_isFrom) _
  rw [Diagram.Connects, ← tableIds_ofDiagram]
  exact Association.ofDiagram?_isSome_iff

theorem associationIds_ofDiagram_nodup (d : Diagram) :
    (((ofDiagram d).associations.map Association.id).filter (· ≠ "")).Nodup := by
  have hids := map_eq_of_forall₂ ((associations_ofDiagram d).imp fun e a h ↦ h.id.symm)
  rw [← hids]
  exact (firstOccurrences_keys_nodup _ _).sublist ((List.filter_sublist.map _).filter _)

/-- A column that takes literals takes those of an enumeration of the schema. -/
theorem enumerationTypes_ofDiagram {d : Diagram} {t : Table} (ht : t ∈ (ofDiagram d).tables)
    {c : Column} (hc : c ∈ t.columns) {name : String} (hname : c.type = .enumeration name) :
    name ∈ (ofDiagram d).enumerations.map Enumeration.name := by
  obtain ⟨e, -, rfl⟩ := List.mem_map.mp ht
  obtain ⟨a, -, rfl⟩ := List.mem_map.mp hc
  exact ColumnType.name_mem_of_ofAttribute hname

/-- The schema of a diagram holds what is to be taken from it, each once, and nothing else; what it
refers to is in it. -/
theorem ofDiagram_isFrom (d : Diagram) : (ofDiagram d).IsFrom d where
  name := rfl
  tables := by
    rw [← d.tableClasses_eq]
    rfl
  enumerations := by
    rw [← d.enumerationsOnce_eq]
    rfl
  tableIds := ofDiagram_ids_nodup d
  enumerationIds := enumerationIds_ofDiagram_nodup d
  associationIds := associationIds_ofDiagram_nodup d
  enumerationTypes := fun _ ht _ hc _ hname ↦ enumerationTypes_ofDiagram ht hc hname
  ends := by
    intro a ha
    obtain ⟨e, -, he⟩ := List.mem_filterMap.mp ha
    obtain ⟨hreferencing, hreferenced⟩ := Association.ofDiagram?_ends he
    exact ⟨hreferencing, hreferenced, (Association.ofDiagram?_isFrom he).columns_ne_empty⟩
  associations := associations_ofDiagram d

end Schema

end DiagramMigrations
