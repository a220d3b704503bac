import DiagramMigrations.Proofs.Diagram.Document
import DiagramMigrations.Proofs.Diagram.Reading
import DiagramMigrations.Schema.Extraction

/-!
Documents that are read, written and read again. What has been read can be read again; it changes
only where a type is an object that repeats its reference, which is kept as another value at first
and is a reference once it is written.
-/

set_option autoImplicit false
set_option relaxedAutoImplicit false

namespace DiagramMigrations.Diagram

/-! ### The depth of what is written -/

section Depth

variable {room : Nat}

theorem Attribute.depth_toJson_le {a : Attribute} (h : a.declaredType.toJson.depth ≤ room) :
    a.toJson.depth ≤ room + 1 := by
  have hmultiplicity : (optionalText a.multiplicity).depth = 0 := by
    cases a.multiplicity <;> rfl
  simp [Attribute.toJson, Json.depth, Json.membersDepth_le, hmultiplicity, h]

theorem Owned.depth_toJson_le (o : Owned) : o.toJson.depth ≤ 2 := by
  cases o <;> simp [Owned.toJson, End.toJson, Json.depth, Json.membersDepth]

theorem Element.depth_toJson_le {e : Element} (hroom : 1 ≤ room)
    (h : ∀ t ∈ e.types, t.toJson.depth ≤ room) : e.toJson.depth ≤ room + 3 := by
  cases e with
  | other => simp [Element.toJson, Json.depth, Json.membersDepth]
  | ofEnumeration e =>
    have hliterals : ∀ l ∈ e.literals, l.toJson.depth ≤ room + 1 := by
      intro l hl
      simp [Literal.toJson, Json.depth, Json.membersDepth]
    simpa [Element.toJson, Json.depth, Json.membersDepth_le, Json.itemsDepth_le] using hliterals
  | ofClass c =>
    have hattributes : ∀ a ∈ c.attributes, a.toJson.depth ≤ room + 1 :=
      fun a ha ↦ Attribute.depth_toJson_le (List.forall_mem_map.mp h a ha)
    have howned : ∀ o ∈ c.owned, o.toJson.depth ≤ room + 1 :=
      fun o _ ↦ o.depth_toJson_le.trans (by omega)
    simpa [Element.toJson, Json.depth, Json.membersDepth_le, Json.itemsDepth_le]
      using ⟨hattributes, howned⟩

/-- A diagram that is read from a document is written to one that does not nest too deep. -/
theorem depth_toJson_le_of_readable {d : Diagram} (h : ∀ t ∈ d.types, t.Readable typeRoom) :
    d.toJson.depth ≤ Json.nestingLimit := by
  rw [depth_toJson_le]
  intro e he
  exact Element.depth_toJson_le (by decide) fun t ht ↦
    (List.forall_mem_flatMap.mp h e he t ht).depth_le

end Depth

/-! ### Types that are read as another value and written as a reference -/

/-- Of the types that can be read, those that hold the written form of a reference are ambiguous. -/
theorem AttributeType.Readable.ambiguous_iff {room : Nat} {t : AttributeType}
    (h : t.Readable room) :
    t.Ambiguous ↔
      ∃ members element, t = .other (.object members) ∧ ("$ref", .text element) ∈ members := by
  cases t with
  | name | reference => simp [Ambiguous]
  | other v =>
    cases v with
    | text s => exact absurd rfl (h.ne_text s)
    | null | boolean | number | array | object => simp [Ambiguous]

/-- Such a type is read only from an object that repeats its reference. -/
theorem repeats_of_ambiguous_readType {members : List (String × Json)}
    (h : (readType (.object members)).Ambiguous) :
    1 < (members.filter fun m ↦ m.1 = "$ref").length := by
  rw [readType] at h
  split at h
  case h_1 => exact absurd h not_false
  case h_2 hnone =>
    obtain ⟨element, helement⟩ := h
    obtain ⟨⟨key, value⟩, hm, heq⟩ :=
      (Json.mem_of_mem_canonicalMembers helement).resolve_left List.not_mem_nil
    obtain ⟨rfl, hvalue⟩ : key = "$ref" ∧ value.canonical = .text element :=
      ⟨(congrArg Prod.fst heq).symm, (congrArg Prod.snd heq).symm⟩
    obtain rfl : value = .text element := by
      cases value <;> simp_all [Json.canonical]
    have hmem : ("$ref", .text element) ∈ members.filter fun m ↦ m.1 = "$ref" :=
      List.mem_filter.mpr ⟨hm, by simp⟩
    rw [referenceOf?] at hnone
    rcases hfilter : members.filter fun m ↦ m.1 = "$ref" with _ | ⟨m, _ | ⟨n, rest⟩⟩
    · exact absurd (hfilter ▸ hmem) List.not_mem_nil
    · obtain rfl := List.mem_singleton.mp (hfilter ▸ hmem)
      rw [hfilter] at hnone
      cases hnone
    · rw [hfilter, List.length_cons, List.length_cons]
      omega

/-- A document that has been read can be written and read again, and the diagram is the same then,
exactly if no type holds an object with a text as its reference. -/
theorem exists_parse_render_of_parse {text : String} {d : Diagram} (h : parse text = .ok d)
    (hwords : ∀ t ∈ d.types, t.toJson.HasWords) :
    ∃ reread, parse d.render = .ok reread ∧
      (reread = d ↔ ∀ members element, .other (.object members) ∈ d.types →
        ("$ref", .text element) ∉ members) := by
  have hreadable := readable_of_parse h
  refine ⟨d.mapTypes AttributeType.reread, ?_, ?_⟩
  · rw [parse_render hwords, if_pos (depth_toJson_le_of_readable hreadable)]
  · calc d.mapTypes AttributeType.reread = d
      _ ↔ ∀ t ∈ d.types, t.reread = t := mapTypes_eq_self_iff
      _ ↔ ∀ t ∈ d.types, ¬ t.Ambiguous :=
        forall₂_congr fun t ht ↦ AttributeType.reread_eq_self_iff (hreadable t ht).sorted
      _ ↔ ∀ t ∈ d.types, ¬ ∃ members element,
          t = .other (.object members) ∧ ("$ref", .text element) ∈ members :=
        forall₂_congr fun t ht ↦ (hreadable t ht).ambiguous_iff.not
      _ ↔ _ := by
        constructor
        · intro hclear members element htype hmember
          exact hclear _ htype ⟨members, element, rfl, hmember⟩
        · rintro hclear t ht ⟨members, element, rfl, hmember⟩
          exact hclear members element ht hmember

/-! ### A reference that is repeated -/

/-- The document of a post, with an enumeration of its states. -/
def postDocument (state : Json) : Json :=
  .object [("views", .array [
    .object [("model", .object [
      ("kind", .text "class"),
      ("id", .text "p"),
      ("name", .text "Post"),
      ("classification", .text "table"),
      ("attributes", .array [.object [("name", .text "state"), ("type", state)]])])],
    .object [("model", .object [
      ("kind", .text "enumeration"),
      ("id", .text "s"),
      ("name", .text "State")])]])]

/-- The diagram of a post, with an enumeration of its states. -/
def post (state : AttributeType) : Diagram where
  elements := [
    .ofClass {
      id := "p"
      name := "Post"
      classification := "table"
      attributes := [{ name := "state", declaredType := state }] },
    .ofEnumeration { id := "s", name := "State" }]

theorem types_post (state : AttributeType) : (post state).types = [state] := rfl

theorem parse_postDocument {v : Json} {state : AttributeType} (hwords : v.HasWords)
    (hread : readDiagram (postDocument v).tree = .ok (post state)) :
    parse (postDocument v).render = .ok (post state) := by
  have hdocument : (postDocument v).HasWords := by
    simp [postDocument, Json.hasWords_object, Json.hasWords_array, hwords]
  rw [parse, Json.ofText_render hdocument]
  dsimp only
  rw [hread]
  rfl

/-- A witness: a foreign object is kept. -/
theorem foreign_post_kept :
    parse (post (.other (.object [("limit", .number (.integer 3))]))).render =
      .ok (post (.other (.object [("limit", .number (.integer 3))]))) := by
  have hwords : (Json.object [("limit", .number (.integer 3))]).HasWords := by
    have hthree : Json.Number.IsWord (.integer 3) := ⟨by decide, by decide⟩
    simp [Json.hasWords_object, Json.hasWords_number, hthree]
  have hread : parse (postDocument (.object [("limit", .number (.integer 3))])).render =
      .ok (post (.other (.object [("limit", .number (.integer 3))]))) :=
    parse_postDocument hwords rfl
  obtain ⟨reread, hreread, hiff⟩ := exists_parse_render_of_parse hread
    (by simpa [types_post, AttributeType.toJson] using hwords)
  have hclear : reread = post (.other (.object [("limit", .number (.integer 3))])) :=
    hiff.mpr fun members element htype ↦ by
      cases List.mem_singleton.mp htype
      simp
  rw [hreread, hclear]

/-- A reference that is said twice is kept as another value. Once it has been written it is a
reference, and the column is no longer a text but of the enumeration. -/
theorem repeated_reference_changes :
    ∃ d reread, parse (postDocument (.object [("$ref", .text "s"), ("$ref", .text "s")])).render =
        .ok d ∧ (∀ t ∈ d.types, t.toJson.HasWords) ∧ parse d.render = .ok reread ∧
      reread ≠ d ∧ Schema.ofDiagram reread ≠ Schema.ofDiagram d := by
  have hread : parse (postDocument (.object [("$ref", .text "s"), ("$ref", .text "s")])).render =
      .ok (post (.other (.object [("$ref", .text "s")]))) :=
    parse_postDocument (by simp [Json.hasWords_object]) rfl
  have hwords : ∀ t ∈ (post (.other (.object [("$ref", .text "s")]))).types,
      t.toJson.HasWords := by
    simp [types_post, AttributeType.toJson, Json.hasWords_object]
  have hreread : parse (post (.other (.object [("$ref", .text "s")]))).render =
      .ok (post (.reference "s")) := by
    rw [parse_render hwords, if_pos (by decide)]
    rfl
  exact ⟨_, _, hread, hwords, hreread, by decide, by decide⟩

end DiagramMigrations.Diagram
