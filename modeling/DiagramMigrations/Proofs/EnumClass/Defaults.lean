import DiagramMigrations.Proofs.EnumClass.Registry
import DiagramMigrations.Proofs.Schema.Selection
import DiagramMigrations.Proofs.Schema.Warnings

/-!
Two judgements of a default that is taken from an enumeration. A validation looks for it among the
literals of the first enumeration of the name, and the registry among those of the last one; so they
agree on a default that both have, or neither, and contradict each other on the others.
-/

set_option autoImplicit false
set_option relaxedAutoImplicit false

namespace DiagramMigrations

open Enumeration

variable {s : Schema} {t : Table} {c : Column} {name value : String} {first last : Enumeration}

/-- A validation warns about a default that the first enumeration of the name does not have. -/
theorem Rule.defaultWarning?_eq_unknownDefault_iff (htype : c.type = .enumeration name)
    (hvalue : c.defaultValue = some (.literal value)) (hfirst : s.enumeration? name = some first) :
    defaultWarning? s t c = some (unknownDefault t c name value) ↔ value ∉ first.literalNames := by
  rw [defaultWarning?_eq_some]
  constructor
  · rintro ⟨name', value', e, htype', hvalue', he, hunknown, -⟩
    obtain rfl := ColumnType.enumeration.inj (htype.symm.trans htype')
    obtain rfl := Default.literal.inj (Option.some.inj (hvalue.symm.trans hvalue'))
    rwa [Option.some.inj (hfirst.symm.trans he)]
  · intro hunknown
    exact ⟨name, value, first, htype, hvalue, hfirst, hunknown, rfl⟩

theorem EnumRegistry.isKey_ofSchema_eq_false_iff
    (hlast : lastNamed? s.enumerations name = some last) :
    (ofSchema s).isKey name value = false ↔ value ∉ last.literalNames := by
  rw [← isKey_ofSchema hlast, Bool.not_eq_true]

/-- Of a column that takes its default from an enumeration, the validation judges the default by the
first enumeration of the name, and the registry by the last one. The validation warns about exactly
the defaults that are no keys of the registry if the two enumerations agree on the default, and
judges the other way round if they do not. -/
theorem default_judgements_agree_iff {d : Diagram} (ht : t ∈ (Schema.ofDiagram d).tables)
    (hc : c ∈ t.columns) (htype : c.type = .enumeration name)
    (hvalue : c.defaultValue = some (.literal value)) :
    (Schema.ofDiagram d).validate.warningsOf .unknownEnumDefault =
        (Schema.ofDiagram d).tables.flatMap
          (fun t ↦ t.columns.filterMap (Rule.defaultWarning? (Schema.ofDiagram d) t)) ∧
      ∃ first last, (Schema.ofDiagram d).enumeration? name = some first ∧
        lastNamed? (Schema.ofDiagram d).enumerations name = some last ∧
        (Rule.defaultWarning? (Schema.ofDiagram d) t c =
            some (Rule.unknownDefault t c name value) ↔ value ∉ first.literalNames) ∧
        ((EnumRegistry.ofSchema (Schema.ofDiagram d)).isKey name value = false ↔
          value ∉ last.literalNames) ∧
        ((Rule.defaultWarning? (Schema.ofDiagram d) t c =
              some (Rule.unknownDefault t c name value) ↔
            (EnumRegistry.ofSchema (Schema.ofDiagram d)).isKey name value = false) ↔
          (value ∈ first.literalNames ↔ value ∈ last.literalNames)) := by
  have hname := Schema.enumerationTypes_ofDiagram ht hc htype
  obtain ⟨first, hfirst⟩ := Schema.exists_enumeration hname
  obtain ⟨last, hlast⟩ := exists_lastNamed? hname
  have hwarned := Rule.defaultWarning?_eq_unknownDefault_iff (t := t) htype hvalue hfirst
  have hkey : (EnumRegistry.ofSchema (Schema.ofDiagram d)).isKey name value = false ↔
      value ∉ last.literalNames := EnumRegistry.isKey_ofSchema_eq_false_iff hlast
  refine ⟨Schema.unknownDefaults_validate _, first, last, hfirst, hlast, hwarned, hkey, ?_⟩
  rw [hwarned, hkey, not_iff_not]

/-- A diagram of tickets whose state is open at first. The state is taken from the first one of some
enumerations, each with its id and its literals, and all of one name. -/
def Diagram.states (id : String) (literals : List String)
    (others : List (String × List String)) : Diagram where
  name := "Tickets"
  elements := .ofClass {
      id := "t"
      name := "Ticket"
      classification := "table"
      attributes := [
        { name := "state", declaredType := .reference id, defaultValue := "Open" }] } ::
    ((id, literals) :: others).map fun entry ↦ .ofEnumeration {
      id := entry.1
      name := "State"
      literals := entry.2.map fun name ↦ { name } }

/-- A witness: of the states that a ticket can have, being open is none, neither for the validation
nor for the registry. -/
theorem open_judged_unknown :
    ∃ t ∈ (Schema.ofDiagram (.states "a" ["Closed", "Won"] [])).tables, ∃ c ∈ t.columns,
      c.type = .enumeration "State" ∧ c.defaultValue = some (.literal "Open") ∧
        Rule.defaultWarning? (Schema.ofDiagram (.states "a" ["Closed", "Won"] [])) t c =
          some (Rule.unknownDefault t c "State" "Open") ∧
        (EnumRegistry.ofSchema (Schema.ofDiagram (.states "a" ["Closed", "Won"] []))).isKey
          "State" "Open" = false := by
  obtain ⟨t, ht, c, hc, htype, hvalue⟩ :
      ∃ t ∈ (Schema.ofDiagram (.states "a" ["Closed", "Won"] [])).tables, ∃ c ∈ t.columns,
        c.type = .enumeration "State" ∧ c.defaultValue = some (.literal "Open") := by
    decide
  obtain ⟨-, first, last, hfirst, hlast, hwarned, -, hagree⟩ :=
    default_judgements_agree_iff ht hc htype hvalue
  have hsame : first = last := by
    have hone : (Schema.ofDiagram (.states "a" ["Closed", "Won"] [])).enumeration? "State" =
        lastNamed? (Schema.ofDiagram (.states "a" ["Closed", "Won"] [])).enumerations "State" := by
      decide
    exact Option.some.inj (hfirst.symm.trans (hone.trans hlast))
  have hunknown : "Open" ∉ first.literalNames := by
    have hnone : ∀ e ∈ (Schema.ofDiagram (.states "a" ["Closed", "Won"] [])).enumerations,
        "Open" ∉ e.literalNames := by
      decide
    exact hnone _ (Schema.enumeration?_eq_some hfirst).1
  have hwarning := hwarned.mpr hunknown
  exact ⟨t, ht, c, hc, htype, hvalue, hwarning, (hagree.mpr (by rw [hsame])).mp hwarning⟩

/-- Of two enumerations of one name, the first one has the default of a ticket and the second one
does not: the validation accepts it and the registry does not know it. -/
theorem open_judged_differently :
    (Schema.ofDiagram (.states "a" ["Open"] [("b", ["Closed"])])).validate.warningsOf
        .unknownEnumDefault = [] ∧
      ∃ t ∈ (Schema.ofDiagram (.states "a" ["Open"] [("b", ["Closed"])])).tables, ∃ c ∈ t.columns,
        c.type = .enumeration "State" ∧ c.defaultValue = some (.literal "Open") ∧
          (EnumRegistry.ofSchema
            (Schema.ofDiagram (.states "a" ["Open"] [("b", ["Closed"])]))).isKey
              "State" "Open" = false := by
  decide

end DiagramMigrations
