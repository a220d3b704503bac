import DiagramMigrations.Proofs.Diagram.Document
import DiagramMigrations.Proofs.Diagram.Edits
import DiagramMigrations.Proofs.Diagram.Views
import DiagramMigrations.Proofs.FirstOccurrence
import Mathlib.Data.Option.Basic
import Mathlib.Logic.Relation

/-!
The known content of a document. Its members may be put in another order and given company that is
not known, and views and elements of kinds that are not read may be added: the document is still
read, and the schema of its diagram is the same.
-/

set_option autoImplicit false
set_option relaxedAutoImplicit false

namespace DiagramMigrations

namespace Diagram

open Json (Key Tree)

/-! ### Edits of a document -/

/-- Edits of the members of a record of a text, by how the values of its fields may be edited. What
stands under a key that is not known may be anything that can be passed over. -/
inductive TreeMembersEdit (names : List String) (Child : String → Tree → Tree → Prop) :
    List (Key × Tree) → List (Key × Tree) → Prop
  | permute {ms ns : List (Key × Tree)} (hperm : ms.Perm ns) : TreeMembersEdit names Child ms ns
  | insert {front rest : List (Key × Tree)} {key : String} {t : Tree} (hkey : key ∉ names)
    (hskip : t.skip = .ok ()) :
    TreeMembersEdit names Child (front ++ rest) (front ++ (.ok key, t) :: rest)
  | pass {front rest : List (Key × Tree)} {key : String} {t u : Tree} (hkey : key ∉ names)
    (hskip : u.skip = .ok ()) :
    TreeMembersEdit names Child (front ++ (.ok key, t) :: rest) (front ++ (.ok key, u) :: rest)
  | change {front rest : List (Key × Tree)} {key : String} {t u : Tree} (hkey : key ∈ names)
    (h : Child key t u) :
    TreeMembersEdit names Child (front ++ (.ok key, t) :: rest) (front ++ (.ok key, u) :: rest)

/-- Edits of a record of a text. -/
inductive RecordEdit (names : List String) (Child : String → Tree → Tree → Prop) :
    Tree → Tree → Prop
  | members {ms ns : List (Key × Tree)} (h : TreeMembersEdit names Child ms ns) :
    RecordEdit names Child (.object ms .closed) (.object ns .closed)
  | item {front rest : List Tree} {key : String} {t u : Tree}
    (hkey : names[front.length]? = some key) (h : Child key t u) :
    RecordEdit names Child (.array (front ++ t :: rest) .closed)
      (.array (front ++ u :: rest) .closed)

/-- Edits of the model of a view: those of the value that it is read as. -/
def ModelEdit (t u : Tree) : Prop :=
  ∃ v w, t.value modelRoom = .ok v ∧ u.value modelRoom = .ok w ∧ Edit (modelRole v) v w

/-- Edits of a view. -/
def ViewEdit : Tree → Tree → Prop :=
  RecordEdit ["model"] fun _ ↦ ModelEdit

/-- Whether a tree is a view with one model, the kind of which is none that is read. -/
def IsForeignView (t : Tree) : Prop :=
  ∃ ms model v, treeMembersAs ["model"] t = some ms ∧ (∀ m ∈ ms, Accepts ["model"] m) ∧
    viewSlot.members ms = [(.ok "model", model)] ∧ model.value modelRoom = .ok v ∧
      IsForeign ["class", "enumeration"] v

/-- Edits of the views of a diagram. -/
inductive ViewsEdit : Tree → Tree → Prop
  | insert {front rest : List Tree} {t : Tree} (ht : IsForeignView t) :
    ViewsEdit (.array (front ++ rest) .closed) (.array (front ++ t :: rest) .closed)
  | view {front rest : List Tree} {t u : Tree} (h : ViewEdit t u) :
    ViewsEdit (.array (front ++ t :: rest) .closed) (.array (front ++ u :: rest) .closed)

/-- Edits of a document. -/
def DocumentEdit : Tree → Tree → Prop :=
  RecordEdit ["name", "views"] fun key t u ↦ key = "views" ∧ ViewsEdit t u

/-! ### Records of a text -/

section Records

variable {names : List String} {Child : String → Tree → Tree → Prop} {t u : Tree}
  {ms ns : List (Key × Tree)}

theorem RecordEdit.exists_members (h : RecordEdit names Child t u)
    (hms : treeMembersAs names t = some ms) :
    ∃ ns, treeMembersAs names u = some ns ∧ TreeMembersEdit names Child ms ns := by
  cases h with
  | members h =>
    obtain ⟨-, rfl⟩ := treeMembersAs_object.mp hms
    exact ⟨_, rfl, h⟩
  | @item front rest key t u hkey h =>
    obtain ⟨-, hlength, rfl⟩ := treeMembersAs_array.mp hms
    have hlength' : (front ++ u :: rest).length ≤ names.length := by
      rwa [List.length_append, List.length_cons] at hlength ⊢
    have hkeys : (front ++ t :: rest).length ≤ (names.map (Except.ok : String → Key)).length := by
      rwa [List.length_map]
    obtain ⟨name, pairs, others, hname, -, hzip⟩ := zip_append_cons hkeys
    obtain rfl : .ok key = name := by
      rw [List.getElem?_map, hkey] at hname
      exact Option.some.inj hname
    refine ⟨_, treeMembersAs_array.mpr ⟨rfl, hlength', rfl⟩, ?_⟩
    rw [hzip t, hzip u]
    exact .change (List.mem_of_getElem? hkey) h

/-- A member with any value that can be read may be added under a key that is not known. -/
theorem TreeMembersEdit.insert_of_value {front rest : List (Key × Tree)} {key : String} {v : Json}
    {room : Nat} (hkey : key ∉ names) (hv : t.value room = .ok v) :
    TreeMembersEdit names Child (front ++ rest) (front ++ (.ok key, t) :: rest) :=
  .insert hkey (Tree.skip_of_value hv)

/-- After an edit all members are still acceptable. -/
theorem TreeMembersEdit.accepts (h : TreeMembersEdit names Child ms ns)
    (hms : ∀ m ∈ ms, Accepts names m) : ∀ m ∈ ns, Accepts names m := by
  cases h with
  | permute hperm => exact fun m hm ↦ hms m (hperm.mem_iff.mpr hm)
  | insert hkey hskip =>
    rw [List.forall_mem_append] at hms
    exact List.forall_mem_append.mpr ⟨hms.1,
      List.forall_mem_cons.mpr ⟨⟨_, rfl, fun _ ↦ hskip⟩, hms.2⟩⟩
  | pass hkey hskip =>
    rw [List.forall_mem_append, List.forall_mem_cons] at hms
    exact List.forall_mem_append.mpr ⟨hms.1,
      List.forall_mem_cons.mpr ⟨⟨_, rfl, fun _ ↦ hskip⟩, hms.2.2⟩⟩
  | change hkey _ => exact accepts_change hkey hms

/-- A field holds after an edit what is the same as before, if its value is read as the same. -/
theorem TreeMembersEdit.exists_holds {Draft α : Type} (name : String)
    {read : Tree → Except ReadError α} {get : Draft → Option α} (Same : α → α → Prop)
    (hrefl : ∀ x, Same x x) (hname : name ∈ names)
    (hchild : ∀ {t u x}, Child name t u → read t = .ok x → ∃ y, read u = .ok y ∧ Same y x)
    (h : TreeMembersEdit names Child ms ns) {x : Option α}
    (hx : (treeSlot name read get).Holds ms x) :
    ∃ y, (treeSlot name read get).Holds ns y ∧ Option.Rel Same y x := by
  have hsame : Option.Rel Same x x := by
    cases x with
    | none => exact .none
    | some x => exact .some (hrefl x)
  have hother {key : String} (hkey : key ≠ name) :
      (treeSlot name read get).takes (.ok key) = false := by
    rwa [Bool.eq_false_iff, ne_eq, takes_treeSlot, Except.ok.injEq]
  cases h with
  | permute hperm => exact ⟨x, hx.perm hperm, hsame⟩
  | insert hkey => exact ⟨x, hx.insert (hother (ne_of_mem_of_not_mem hname hkey).symm), hsame⟩
  | pass hkey =>
    exact ⟨x, hx.change_of_not (hother (ne_of_mem_of_not_mem hname hkey).symm), hsame⟩
  | @change front rest key t u _ h =>
    by_cases hkey : key = name
    · subst hkey
      obtain ⟨⟨before, hbefore, rfl⟩, hchange⟩ := hx.change (takes_treeSlot.mpr rfl)
      obtain ⟨after, hafter, hsame⟩ := hchild h hbefore
      exact ⟨some after, hchange after hafter, .some hsame⟩
    · exact ⟨x, hx.change_of_not (hother hkey), hsame⟩

end Records

/-! ### Views and diagrams -/

section Views

variable {t u : Tree} {e : Element}

theorem Element.Same.refl (e : Element) : e.Same e :=
  ⟨rfl, rfl⟩

theorem readModel_of_edit (h : ModelEdit t u) (he : readModel t = .ok e) :
    ∃ e', readModel u = .ok e' ∧ e'.Same e := by
  obtain ⟨v, w, hv, hw, h⟩ := h
  obtain ⟨v', hv', hmodels⟩ := readModel_eq_ok.mp he
  obtain rfl : v = v' := Except.ok.inj (hv.symm.trans hv')
  obtain ⟨e', he', hsame⟩ := hmodels.exists_of_edit h
  exact ⟨e', readModel_eq_ok.mpr ⟨w, hw, he'⟩, hsame⟩

theorem readView_of_edit (h : ViewEdit t u) (he : readView t = .ok e) :
    ∃ e', readView u = .ok e' ∧ e'.Same e := by
  obtain ⟨ms, hms, haccepts, hmodel⟩ := readView_eq_ok.mp he
  obtain ⟨ns, hns, hedit⟩ := h.exists_members hms
  obtain ⟨model, hmodel', hsame⟩ := hedit.exists_holds "model" Element.Same
    Element.Same.refl List.mem_cons_self readModel_of_edit hmodel
  cases hsame with
  | some hsame => exact ⟨_, readView_eq_ok.mpr ⟨ns, hns, hedit.accepts haccepts, hmodel'⟩, hsame⟩

/-- A view of a foreign kind shows something that is not read. -/
theorem readView_of_foreign (ht : IsForeignView t) : readView t = .ok .other := by
  obtain ⟨ms, model, v, hms, haccepts, hmodel, hvalue, hforeign⟩ := ht
  obtain ⟨kind, hkind, hread⟩ := hforeign.exists_read
  have hkinds : kind ≠ "class" ∧ kind ≠ "enumeration" := by simpa using hkind
  have hother : readModel model = .ok .other :=
    readModel_eq_ok.mpr ⟨v, hvalue, .other hkinds.1 hkinds.2 hread⟩
  exact readView_eq_ok.mpr ⟨ms, hms, haccepts, Slot.holds_some_iff.mpr ⟨_, hmodel, hother⟩⟩

/-- Whether the elements of two diagrams are the same for a schema. -/
def SameElements (es es' : List Element) : Prop :=
  (es.filterMap Element.class?).map Class.bare = (es'.filterMap Element.class?).map Class.bare ∧
    es.filterMap Element.enumeration? = es'.filterMap Element.enumeration?

theorem SameElements.refl (es : List Element) : SameElements es es :=
  ⟨rfl, rfl⟩

theorem sameElements_insert (before behind : List Element) :
    SameElements (before ++ .other :: behind) (before ++ behind) := by
  rw [SameElements, List.filterMap_append, List.filterMap_cons_none rfl, List.filterMap_append,
    List.filterMap_append, List.filterMap_cons_none rfl, List.filterMap_append]
  exact ⟨rfl, rfl⟩

theorem sameElements_change {e e' : Element} (h : e'.Same e) (before behind : List Element) :
    SameElements (before ++ e' :: behind) (before ++ e :: behind) := by
  obtain ⟨hclass, henumeration⟩ := h
  constructor
  · rw [List.map_filterMap, List.map_filterMap, List.filterMap_append, List.filterMap_append,
      List.filterMap_cons, List.filterMap_cons, hclass]
  · rw [List.filterMap_append, List.filterMap_append, List.filterMap_cons, List.filterMap_cons,
      henumeration]

theorem readViews_of_edit {es : List Element} (h : ViewsEdit t u) (hes : readViews t = .ok es) :
    ∃ es', readViews u = .ok es' ∧ SameElements es' es := by
  obtain ⟨views, htree, hviews⟩ := readViews_eq_ok.mp hes
  cases h with
  | insert ht =>
    obtain ⟨rfl, -⟩ := Tree.array.inj htree
    obtain ⟨before, behind, hbefore, hbehind, rfl⟩ := mapM_append_eq_ok.mp hviews
    have hread := mapM_append_cons_eq_ok.mpr
      ⟨before, .other, behind, hbefore, readView_of_foreign ht, hbehind, rfl⟩
    exact ⟨_, readViews_eq_ok.mpr ⟨_, rfl, hread⟩, sameElements_insert before behind⟩
  | view h =>
    obtain ⟨rfl, -⟩ := Tree.array.inj htree
    obtain ⟨before, e, behind, hbefore, he, hbehind, rfl⟩ := mapM_append_cons_eq_ok.mp hviews
    obtain ⟨e', he', hsame⟩ := readView_of_edit h he
    have hread := mapM_append_cons_eq_ok.mpr ⟨before, e', behind, hbefore, he', hbehind, rfl⟩
    exact ⟨_, readViews_eq_ok.mpr ⟨_, rfl, hread⟩, sameElements_change hsame before behind⟩

/-- Whether two diagrams are the same for a schema: they have one name, the same enumerations, and
classes that own the same associations and otherwise are equal. -/
def Same (d d' : Diagram) : Prop :=
  d.name = d'.name ∧ SameElements d.elements d'.elements

theorem readDiagram_of_edit {d : Diagram} (h : DocumentEdit t u) (hd : readDiagram t = .ok d) :
    ∃ d', readDiagram u = .ok d' ∧ d'.Same d := by
  obtain ⟨ms, name, elements, hms, haccepts, hname, hviews, rfl⟩ := readDiagram_eq_ok.mp hd
  obtain ⟨ns, hns, hedit⟩ := h.exists_members hms
  obtain ⟨name', hname', hsameName⟩ := hedit.exists_holds "name" Eq (fun _ ↦ rfl)
    List.mem_cons_self (fun h ↦ absurd h.1 (by simp)) hname
  obtain ⟨elements', hviews', hsame⟩ := hedit.exists_holds "views" SameElements
    SameElements.refl (by simp) (fun h ↦ readViews_of_edit h.2) hviews
  refine ⟨_, readDiagram_eq_ok.mpr
    ⟨ns, name', elements', hns, hedit.accepts haccepts, hname', hviews', rfl⟩, ?_, ?_⟩
  · cases hsameName with
    | none => rfl
    | some h => exact h
  · cases hsame with
    | none => exact SameElements.refl []
    | some h => exact h

end Views

end Diagram

/-! ### Schemas -/

section Schemas

namespace Diagram

open Json (Tree)

variable {d d' : Diagram}

/-- The tables of a diagram come from the classes as far as a schema is concerned with them. -/
theorem map_bare_tableClasses (d : Diagram) : d.tableClasses.map Class.bare =
    firstsBy Class.id ((d.classes.map Class.bare).filter Class.isTable) := by
  have htable : Class.isTable ∘ Class.bare = Class.isTable := rfl
  have hid : ∀ c : Class, c.bare.id = c.id := fun _ ↦ rfl
  rw [List.filter_map, htable, firstsBy_map hid, tableClasses]

theorem Same.tableClasses (h : d.Same d') :
    d.tableClasses.map Class.bare = d'.tableClasses.map Class.bare := by
  rw [map_bare_tableClasses, map_bare_tableClasses]
  exact congrArg (fun cs ↦ firstsBy Class.id (cs.filter Class.isTable)) h.2.1

theorem Class.associations_bare (c : Class) :
    c.bare.owned.filterMap Owned.association? = c.owned.filterMap Owned.association? := by
  rw [bare, List.filterMap_map]
  exact List.filterMap_some

theorem Same.tableAssociations (h : d.Same d') : d.tableAssociations = d'.tableAssociations := by
  have hbare (cs : List Class) : (cs.flatMap fun c ↦ c.owned.filterMap Owned.association?) =
      (cs.map Class.bare).flatMap fun c ↦ c.owned.filterMap Owned.association? := by
    rw [List.flatMap_map]
    simp only [Class.associations_bare]
  rw [Diagram.tableAssociations, Diagram.tableAssociations, hbare, h.tableClasses, ← hbare]

/-- Diagrams that are the same for a schema have one schema. -/
theorem Same.ofDiagram_eq (h : d.Same d') : Schema.ofDiagram d = Schema.ofDiagram d' := by
  have henumerations : d.enumerationsOnce = d'.enumerationsOnce :=
    congrArg (firstsBy Enumeration.id) h.2.2
  have htables (es : List DiagramMigrations.Enumeration) :
      d.tableClasses.map (Table.ofClass es) = d'.tableClasses.map (Table.ofClass es) := by
    have hbare (cs : List Class) :
        cs.map (Table.ofClass es) = (cs.map Class.bare).map (Table.ofClass es) := by
      rw [List.map_map]
      rfl
    rw [hbare, h.tableClasses, ← hbare]
  rw [Schema.ofDiagram, Schema.ofDiagram, h.1, henumerations, htables, h.tableAssociations]

/-- A document that is edited, once or more often, without touching what is known of it is still
read, and the schema of its diagram stays the same. -/
theorem exists_parse_of_edits {text other : String} (hd : parse text = .ok d)
    (hedits : Relation.ReflTransGen DocumentEdit (Tree.ofText text).1 (Tree.ofText other).1)
    (hend : (Tree.ofText other).2 = false) :
    ∃ d', parse other = .ok d' ∧ Schema.ofDiagram d' = Schema.ofDiagram d := by
  obtain ⟨hread, -⟩ := parse_eq_ok.mp hd
  suffices h : ∀ u, Relation.ReflTransGen DocumentEdit (Tree.ofText text).1 u →
      ∃ d', readDiagram u = .ok d' ∧ Schema.ofDiagram d' = Schema.ofDiagram d by
    obtain ⟨d', hd', hschema⟩ := h _ hedits
    exact ⟨d', parse_eq_ok.mpr ⟨hd', hend⟩, hschema⟩
  intro u h
  induction h with
  | refl => exact ⟨d, hread, rfl⟩
  | tail _ hedit ih =>
    obtain ⟨before, hbefore, hschema⟩ := ih
    obtain ⟨after, hafter, hsame⟩ := readDiagram_of_edit hedit hbefore
    exact ⟨after, hafter, hsame.ofDiagram_eq.trans hschema⟩

/-! ### A document that is edited -/

/-- The kind of a class. -/
def classKind : String × Json :=
  ("kind", .text "class")

/-- The other members of a class that is a table. -/
def items (owned : List Json) : List (String × Json) :=
  [("id", .text "i"), ("name", .text "items"), ("classification", .text "table"),
    ("ownedElements", .array owned)]

/-- An element of another kind. -/
def arrow : Json :=
  .object [("kind", .text "arrow"), ("from", .null)]

/-- The members of a document that shows models. -/
def showing (models : List Json) : List (String × Json) :=
  [("name", .text "Shop"), ("views", .array (models.map fun model ↦ .object [("model", model)]))]

/-- A document that shows a class. -/
def sketch : Json :=
  .object (showing [.object (classKind :: items [])])

/-- The same document with a view and an owned element of another kind, with the kind of the class
behind its fields, its own members in another order, and one that is not known. -/
def redrawn : Json :=
  .object (("zoom", .null) :: (showing [arrow, .object (items [arrow] ++ [classKind])]).reverse)

/-- A witness: the redrawn document comes from the other by edits. -/
theorem parse_redrawn : ∃ d d', parse sketch.render = .ok d ∧ parse redrawn.render = .ok d' ∧
    Schema.ofDiagram d' = Schema.ofDiagram d := by
  have hsketch : Tree.ofText sketch.render = (sketch.tree, false) :=
    Json.ofText_render (by
      simp [sketch, showing, items, classKind, Json.hasWords_object, Json.hasWords_array])
  have hredrawn : Tree.ofText redrawn.render = (redrawn.tree, false) :=
    Json.ofText_render (by
      simp [redrawn, showing, items, classKind, arrow, Json.hasWords_object, Json.hasWords_array])
  let shown (models : List Json) : Tree := (Json.object (showing models)).tree
  let kept : Json := .object (classKind :: items [])
  let moved : Json := .object (items [] ++ [classKind])
  let joined : Json := .object (items [arrow] ++ [classKind])
  have hview : DocumentEdit (shown [kept]) (shown [arrow, kept]) := by
    refine .members (@TreeMembersEdit.change _ _ [_] [] "views" _ _ (by decide) ⟨rfl,
      @ViewsEdit.insert [] _ (Json.object [("model", arrow)]).tree ?_⟩)
    refine ⟨_, _, arrow, rfl, ?_, rfl, rfl, _, "arrow", rfl, rfl, by decide⟩
    exact List.forall_mem_singleton.mpr ⟨"model", rfl, by simp⟩
  have hmodel {v w : Json} (hv : v.tree.value modelRoom = .ok v)
      (hw : w.tree.value modelRoom = .ok w) (h : Edit (modelRole v) v w) :
      DocumentEdit (shown [arrow, v]) (shown [arrow, w]) :=
    .members (@TreeMembersEdit.change _ _ [_] [] "views" _ _ (by decide) ⟨rfl,
      @ViewsEdit.view [_] [] _ _ (.members (@TreeMembersEdit.change _ _ [] [] "model" _ _
        (by decide) ⟨v, w, hv, hw, h⟩))⟩)
  have hkind : Edit .ofClass kept moved :=
    .permute (by decide) (List.perm_append_singleton _ _).symm
  have howned : Edit .ofClass moved joined :=
    @Edit.member _ [_, _, _] [_] "ownedElements" _ _
      (@Edit.insertOwned [] [] arrow ⟨_, "arrow", rfl, rfl, by decide⟩)
  have horder : DocumentEdit (shown [arrow, joined])
      (Json.object (showing [arrow, joined]).reverse).tree :=
    .members (.permute (List.Perm.swap _ _ _))
  have hzoom : DocumentEdit (Json.object (showing [arrow, joined]).reverse).tree redrawn.tree :=
    .members (@TreeMembersEdit.insert_of_value _ _ .null [] _ "zoom" .null 0 (by decide) rfl)
  have hedits : Relation.ReflTransGen DocumentEdit sketch.tree redrawn.tree :=
    .head hview (.head (hmodel rfl rfl hkind) (.head (hmodel rfl rfl howned)
      (.head horder (.head hzoom .refl))))
  let d : Diagram :=
    ⟨"Shop", [.ofClass { id := "i", name := "items", classification := "table" }]⟩
  have hread : parse sketch.render = .ok d := by
    rw [parse_eq_ok, hsketch]
    exact ⟨rfl, rfl⟩
  have htrees : Relation.ReflTransGen DocumentEdit (Tree.ofText sketch.render).1
      (Tree.ofText redrawn.render).1 := by
    rwa [hsketch, hredrawn]
  obtain ⟨d', hd', hschema⟩ := exists_parse_of_edits hread htrees (by rw [hredrawn])
  exact ⟨d, d', hread, hd', hschema⟩

end Diagram

end Schemas

end DiagramMigrations
