import DiagramMigrations.Proofs.FirstOccurrence
import DiagramMigrations.Proofs.Lists
import DiagramMigrations.Schema.Extraction

/-!
What later stages rely on in a schema that comes from a diagram: no two tables share an id, and an
association leads from one of the tables to one of the tables.
-/

set_option autoImplicit false
set_option relaxedAutoImplicit false

namespace DiagramMigrations

/-- Whether both ends of every association are tables of the schema. -/
def Schema.Closed (s : Schema) : Prop :=
  ∀ a ∈ s.associations, a.referencingTable ∈ s.tables.map Table.id ∧
    a.referencedTable ∈ s.tables.map Table.id

theorem Association.ofDiagram?_ends {tables : List Table} {d : Diagram.Association}
    {a : Association} (h : ofDiagram? tables d = some a) :
    a.referencingTable ∈ tables.map Table.id ∧ a.referencedTable ∈ tables.map Table.id := by
  obtain ⟨referencing, hreferencing, h⟩ := Option.bind_eq_some_iff.mp h
  obtain ⟨referenced, hreferenced, h⟩ := Option.bind_eq_some_iff.mp h
  obtain rfl := Option.some.inj h
  have hfrom := List.find?_some hreferencing
  have hto := List.find?_some hreferenced
  refine ⟨List.mem_map.mpr ⟨referencing, ?_, by simpa using hfrom⟩,
    List.mem_map.mpr ⟨referenced, ?_, by simpa using hto⟩⟩
  · exact List.mem_of_find?_eq_some hreferencing
  · exact List.mem_of_find?_eq_some hreferenced

namespace Schema

/-- Of distinct ids, each finds the table of the schema that has it. -/
theorem table?_eq_some {s : Schema} (hids : (s.tables.map Table.id).Nodup) {id : String}
    {t : Table} : s.table? id = some t ↔ t ∈ s.tables ∧ t.id = id :=
  find?_key_eq_some hids

theorem ofDiagram_closed (d : Diagram) : (ofDiagram d).Closed := by
  intro a ha
  obtain ⟨e, -, he⟩ := List.mem_filterMap.mp ha
  exact Association.ofDiagram?_ends he

theorem ofDiagram_ids_nodup (d : Diagram) : ((ofDiagram d).tables.map Table.id).Nodup := by
  change ((d.tableClasses.map (Table.ofClass _)).map Table.id).Nodup
  rw [List.map_map]
  exact firstsBy_keys_nodup Diagram.Class.id _

end Schema

end DiagramMigrations
