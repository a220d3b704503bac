import DiagramMigrations.Diagram.Document
import DiagramMigrations.Proofs.Diagram.Element
import DiagramMigrations.Proofs.Json.Tree

/-!
Documents that are written and read again. A document is refused if it nests too deep; otherwise the
diagram in it is the one that was written, but for types that are the written form of others.
-/

set_option autoImplicit false
set_option relaxedAutoImplicit false

namespace DiagramMigrations.Diagram

open Json (Tree)

/-! ### The model of a view -/

section Model

variable {room : Nat} {kind : String} {members : List (String × Json)}

theorem takeKind_tree {key : String} {value : Json} (hkey : key ≠ "kind") (hwords : value.HasWords)
    (read : List (String × Json)) :
    takeKind room (some kind, read) (.ok key, value.tree) =
      if value.depth ≤ room then .ok (some kind, read ++ [(key, value)])
      else .error (.text .tooDeep) := by
  have htake : takeKind room (some kind, read) (.ok key, value.tree) =
      (liftFault (value.tree.value room)).map fun v ↦ (some kind, read ++ [(key, v)]) :=
    if_neg hkey
  rw [htake, Json.value_tree hwords]
  split_ifs <;> rfl

theorem foldlM_takeKind (hkeys : ∀ m ∈ members, m.1 ≠ "kind")
    (hwords : ∀ m ∈ members, m.2.HasWords) (read : List (String × Json)) :
    (Json.memberTrees members).foldlM (takeKind room) (some kind, read) =
      if Json.membersDepth members ≤ room then .ok (some kind, read ++ members)
      else .error (.text .tooDeep) := by
  induction members generalizing read with
  | nil => simp [Json.memberTrees, Json.membersDepth, pure, Except.pure]
  | cons m members ih =>
    obtain ⟨key, value⟩ := m
    obtain ⟨hkey, hkeys⟩ := List.forall_mem_cons.mp hkeys
    obtain ⟨hvalue, hwords⟩ := List.forall_mem_cons.mp hwords
    rw [Json.memberTrees, List.foldlM_cons, takeKind_tree hkey hvalue, Json.membersDepth]
    simp only [max_le_iff]
    by_cases hfirst : value.depth ≤ room
    · rw [if_pos hfirst]
      change (Json.memberTrees members).foldlM (takeKind room)
        (some kind, read ++ [(key, value)]) = _
      rw [ih hkeys hwords]
      simp [hfirst]
    · rw [if_neg hfirst, if_neg fun h ↦ hfirst h.1]
      rfl

theorem splitKind_memberTrees (hkeys : ∀ m ∈ members, m.1 ≠ "kind")
    (hwords : ∀ m ∈ members, m.2.HasWords) :
    splitKind (room + 1) (.object (Json.memberTrees (("kind", .text kind) :: members)) .closed) =
      if Json.membersDepth members ≤ room then .ok (kind, .object members)
      else .error (.text .tooDeep) := by
  have hfirst : takeKind room (none, []) (.ok "kind", (Json.text kind).tree) =
      .ok (some kind, []) := rfl
  rw [splitKind, Json.memberTrees, List.foldlM_cons, Nat.add_sub_cancel, hfirst]
  -- the kind stands first, so the others are read with the kind at hand
  change (((Json.memberTrees members).foldlM (takeKind room) (some kind, [])).bind _) = _
  rw [foldlM_takeKind hkeys hwords]
  split_ifs <;> rfl

end Model

namespace Element

variable {e : Element}

theorem kind_ne (e : Element) : ∀ m ∈ e.fields, m.1 ≠ "kind" := by
  cases e <;> simp [fields]

theorem depth_toJson (e : Element) : e.toJson.depth = Json.membersDepth e.fields + 1 := by
  simp [e.toJson_eq, Json.depth, Json.membersDepth]

/-- The model of a view is read as the element that was written in it, up to its types. -/
theorem readModel_tree (hwords : e.toJson.HasWords) :
    readModel e.toJson.tree =
      if e.toJson.depth ≤ modelRoom then .ok (e.mapTypes AttributeType.reread)
      else .error (.text .tooDeep) := by
  obtain ⟨room, hroom⟩ : ∃ room, modelRoom = room + 1 := ⟨_, rfl⟩
  rw [e.toJson_eq, Json.hasWords_object] at hwords
  rw [readModel, e.depth_toJson, e.toJson_eq, Json.tree, hroom,
    splitKind_memberTrees e.kind_ne (List.forall_mem_cons.mp hwords).2]
  simp only [Nat.add_le_add_iff_right]
  split_ifs
  · change liftComplaint (readElement e.kind (.object e.fields)) = _
    rw [e.read_fields]
    rfl
  · rfl

/-- An element in the view that shows it. -/
def view (e : Element) : Json :=
  .object [("model", e.toJson)]

theorem readView_tree (hwords : e.toJson.HasWords) :
    readView e.view.tree =
      if e.toJson.depth ≤ modelRoom then .ok (e.mapTypes AttributeType.reread)
      else .error (.text .tooDeep) := by
  have htake : takeModel none (.ok "model", e.toJson.tree) =
      readModel e.toJson.tree >>= fun model ↦ .ok (some model) := rfl
  rw [view, Json.tree, Json.memberTrees, Json.memberTrees, readView, List.foldlM_cons, htake,
    readModel_tree hwords]
  split_ifs <;> rfl

end Element

variable {d : Diagram}

theorem readViews_tree (hwords : ∀ e ∈ d.elements, e.toJson.HasWords) :
    readViews (Json.array (d.elements.map Element.view)).tree =
      if ∀ e ∈ d.elements, e.toJson.depth ≤ modelRoom
      then .ok (d.elements.map (Element.mapTypes AttributeType.reread))
      else .error (.text .tooDeep) := by
  have htrees : Json.trees (d.elements.map Element.view) =
      d.elements.map fun e ↦ e.view.tree := by
    rw [Json.trees_eq, List.map_map]
    rfl
  rw [Json.tree, readViews, htrees,
    mapM_map_eq_ite fun e he ↦ Element.readView_tree (hwords e he)]
  split_ifs <;> rfl

theorem depth_toJson_le :
    d.toJson.depth ≤ Json.nestingLimit ↔ ∀ e ∈ d.elements, e.toJson.depth ≤ modelRoom := by
  have hlimit : Json.nestingLimit = modelRoom + 1 + 1 + 1 := rfl
  rw [hlimit, toJson, Json.depth_object_le]
  simp [Json.depth, Json.itemsDepth_le, Json.membersDepth]

theorem readDiagram_tree (hwords : ∀ e ∈ d.elements, e.toJson.HasWords) :
    readDiagram d.toJson.tree =
      if d.toJson.depth ≤ Json.nestingLimit then .ok (d.mapTypes AttributeType.reread)
      else .error (.text .tooDeep) := by
  let views := (Json.array (d.elements.map Element.view)).tree
  have htree : d.toJson.tree =
      .object [(.ok "name", .text (.ok d.name)), (.ok "views", views)] .closed := rfl
  have htake : DiagramDraft.take ⟨some d.name, none⟩ (.ok "views", views) =
      readViews views >>= fun elements ↦ .ok ⟨some d.name, some elements⟩ := rfl
  rw [htree, readDiagram]
  -- the name has been taken in
  change ([(.ok "views", views)].foldlM DiagramDraft.take ⟨some d.name, none⟩ >>= _) = _
  rw [List.foldlM_cons, htake, readViews_tree hwords]
  simp only [depth_toJson_le]
  split_ifs <;> rfl

/-- The document of a diagram is read as the diagram, up to its types, unless it nests too deep. -/
theorem parse_render (hwords : ∀ t ∈ d.types, t.toJson.HasWords) :
    parse d.render =
      if d.toJson.depth ≤ Json.nestingLimit then .ok (d.mapTypes AttributeType.reread)
      else .error (.text .tooDeep) := by
  have helements : ∀ e ∈ d.elements, e.toJson.HasWords :=
    fun e he ↦ Element.hasWords_toJson (List.forall_mem_flatMap.mp hwords e he)
  rw [parse, render, Json.ofText_render (hasWords_toJson hwords)]
  dsimp only
  rw [readDiagram_tree helements]
  by_cases hdepth : d.toJson.depth ≤ Json.nestingLimit
  · rw [if_pos hdepth]
    rfl
  · rw [if_neg hdepth]
    rfl

/-- A diagram that is written and read again is the same, exactly if none of its types holds a value
that is the written form of a name or of a reference. The objects in its types list their members in
order and without repetition, as all objects do that are kept. -/
theorem exists_parse_render_eq_self_iff (hdepth : d.toJson.depth ≤ Json.nestingLimit)
    (hwords : ∀ t ∈ d.types, t.toJson.HasWords) (hsorted : ∀ t ∈ d.types, t.toJson.Sorted) :
    ∃ reread, parse d.render = .ok reread ∧ (reread = d ↔ ∀ t ∈ d.types, ¬ t.Ambiguous) := by
  refine ⟨d.mapTypes AttributeType.reread, ?_, ?_⟩
  · rw [parse_render hwords, if_pos hdepth]
  · rw [mapTypes_eq_self_iff]
    exact forall₂_congr fun t ht ↦ AttributeType.reread_eq_self_iff (hsorted t ht)

/-- A diagram with a type of every form, an enumeration without literals and an element of another
kind. -/
def stock : Diagram where
  name := "Stock \"A\"\n"
  elements := [
    .other,
    .ofEnumeration { id := "state", name := "State" },
    .ofClass {
      id := "item"
      name := "Item"
      classification := " Table "
      attributes := [
        { name := "größe", declaredType := .name "integer", isId := true },
        { name := "state", declaredType := .reference "state", multiplicity := some "1" },
        { name := "left", declaredType := .other .null },
        { name := "right", declaredType := .other (.object [
          ("$ref", .array []),
          ("limit", .number (.integer (-9223372036854775808)))]) }]
      owned := [.other] }]

/-- A witness: none of the types of the stock is ambiguous, and its document is read as it was. -/
theorem parse_render_stock : parse stock.render = .ok stock := by
  let limits : Json :=
    .object [("$ref", .array []), ("limit", .number (.integer (-9223372036854775808)))]
  have htypes : stock.types =
      [.name "integer", .reference "state", .other .null, .other limits] := rfl
  have hleast : Json.Number.IsWord (.integer (-9223372036854775808)) := ⟨by decide, by decide⟩
  have hwords : ∀ t ∈ stock.types, t.toJson.HasWords := by
    simp [htypes, limits, AttributeType.toJson, Json.hasWords_object, Json.hasWords_array,
      Json.hasWords_number, hleast]
  have hlimits : limits.Sorted := by
    have hcanonical : limits.canonical = limits := by decide
    rw [← hcanonical]
    exact limits.sorted_canonical
  have hsorted : ∀ t ∈ stock.types, t.toJson.Sorted := by
    simp [htypes, AttributeType.toJson, Json.sorted_object, hlimits]
  have hclear : ∀ t ∈ stock.types, ¬ t.Ambiguous := by
    simp [htypes, limits, AttributeType.Ambiguous]
  obtain ⟨reread, hparse, hiff⟩ := exists_parse_render_eq_self_iff (by decide) hwords hsorted
  rw [hparse, hiff.mpr hclear]

end DiagramMigrations.Diagram
