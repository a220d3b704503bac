import DiagramMigrations.Proofs.Diagram.Models

/-!
Views and diagrams as records of a text. Unlike a model they are read as the text goes on, and what
stands under an unknown key is passed over. Here too what is read depends on the known members
alone.
-/

set_option autoImplicit false
set_option relaxedAutoImplicit false

namespace DiagramMigrations.Diagram

open Json (Key Stop Tree)

/-! ### Members of a tree -/

/-- The members of a record that has fields of some names: those of an object, or the elements of an
array that is not too long. -/
def treeMembersAs (names : List String) : Tree → Option (List (Key × Tree))
  | .object members .closed => some members
  | .array items .closed =>
    if items.length ≤ names.length then some ((names.map Except.ok).zip items) else none
  | _ => none

/-- Whether a member may stand in a record: its key is whole, and what stands under a key that is
not known can be passed over. -/
def Accepts (names : List String) (m : Key × Tree) : Prop :=
  ∃ key, m.1 = .ok key ∧ (key ∉ names → m.2.skip = .ok ())

/-- A field of a record of a text. -/
def treeSlot {Draft α : Type} (name : String) (read : Tree → Except ReadError α)
    (get : Draft → Option α) : Slot Draft Key Tree ReadError where
  Value := α
  takes key := key.toOption = some name
  read := read
  get := get

section Trees

variable {t : Tree} {ms : List (Key × Tree)} {stop : Stop} {name key : String}

theorem toOption_eq_some {k : Key} : k.toOption = some key ↔ k = .ok key := by
  cases k <;> simp [Except.toOption]

theorem treeMembersAs_object {names : List String} {members : List (Key × Tree)} :
    treeMembersAs names (.object members stop) = some ms ↔ stop = .closed ∧ members = ms := by
  cases stop <;> simp [treeMembersAs]

theorem treeMembersAs_array {names : List String} {items : List Tree} :
    treeMembersAs names (.array items stop) = some ms ↔
      stop = .closed ∧ items.length ≤ names.length ∧ (names.map Except.ok).zip items = ms := by
  cases stop <;> simp [treeMembersAs]

theorem takes_treeSlot {Draft α : Type} {read : Tree → Except ReadError α}
    {get : Draft → Option α} {k : Key} :
    (treeSlot name read get).takes k = true ↔ k = .ok name := by
  rw [treeSlot, decide_eq_true_eq, toOption_eq_some]

/-- Where a known member is changed, the members of a record are still acceptable. -/
theorem accepts_change {names : List String} {front rest : List (Key × Tree)} {a b : Tree}
    (hkey : key ∈ names) (h : ∀ m ∈ front ++ (.ok key, a) :: rest, Accepts names m) :
    ∀ m ∈ front ++ (.ok key, b) :: rest, Accepts names m := by
  rw [List.forall_mem_append, List.forall_mem_cons] at h ⊢
  exact ⟨h.1, ⟨key, rfl, fun hunknown ↦ absurd hkey hunknown⟩, h.2.2⟩

theorem objectFault?_eq_none : stop.objectFault? = none ↔ stop = .closed := by
  cases stop <;> simp [Stop.objectFault?]

theorem arrayFault?_eq_none : stop.arrayFault? = none ↔ stop = .closed := by
  cases stop <;> simp [Stop.arrayFault?]

theorem surplusFault?_eq_none : stop.surplusFault? = none ↔ stop = .closed := by
  cases stop <;> simp [Stop.surplusFault?]

theorem orFault_eq_ok {fault : Option Json.Fault} : Tree.orFault fault = .ok () ↔ fault = none := by
  cases fault <;> simp [Tree.orFault]

theorem unlessRepeated_eq_ok {α : Type} {field : String} {slot : Option α} :
    unlessRepeated field slot = .ok () ↔ slot = none := by
  cases slot <;> simp [unlessRepeated]

end Trees

/-! ### Views -/

/-- The field of a view. -/
def viewSlot : Slot (Option Element) Key Tree ReadError :=
  treeSlot "model" readModel fun model ↦ model

theorem takeModel_fills : Fills takeModel (Accepts ["model"]) [viewSlot] where
  takes := by
    rintro model ⟨k, t⟩ next h
    obtain ⟨key, hkey, h⟩ := bind_eq_ok.mp h
    obtain rfl := readKey_eq_ok.mp hkey
    dsimp only at h
    rw [List.forall_mem_singleton]
    split_ifs at h with hmodel
    · obtain ⟨⟨⟩, hfree, h⟩ := bind_eq_ok.mp h
      obtain ⟨e, he, h⟩ := bind_eq_ok.mp h
      obtain rfl := Except.ok.inj h
      refine ⟨⟨key, rfl, fun hunknown ↦ absurd hmodel (by simpa using hunknown)⟩, ?_⟩
      exact (Slot.takes_iff (takes_treeSlot.mpr (congrArg Except.ok hmodel))).mpr
        ⟨unlessRepeated_eq_ok.mp hfree, e, he, rfl⟩
    · obtain ⟨⟨⟩, hskip, h⟩ := bind_eq_ok.mp h
      obtain rfl := Except.ok.inj h
      refine ⟨⟨key, rfl, fun _ ↦ mapError_eq_ok.mp hskip⟩, ?_⟩
      exact (Slot.takes_iff_of_not (by simp [viewSlot, treeSlot, Except.toOption, hmodel])).mpr rfl
  exists_take := by
    rintro model ⟨k, t⟩ ⟨key, rfl, hskip⟩ h
    rw [List.forall_mem_singleton, Slot.exists_takes_iff] at h
    change ∃ next, (if key = "model" then _ else _) = Except.ok next
    split_ifs with hmodel
    · obtain ⟨hfree, e, he⟩ := h (takes_treeSlot.mpr (congrArg Except.ok hmodel))
      exact ⟨some e, bind_eq_ok.mpr ⟨(), unlessRepeated_eq_ok.mpr hfree,
        bind_eq_ok.mpr ⟨e, he, rfl⟩⟩⟩
    · exact ⟨model, bind_eq_ok.mpr ⟨(), mapError_eq_ok.mpr (hskip (by simpa using hmodel)), rfl⟩⟩

section Views

variable {t : Tree} {e : Element}

theorem readView_eq_ok_iff_foldlM : readView t = .ok e ↔
    ∃ ms, treeMembersAs ["model"] t = some ms ∧ ms.foldlM takeModel none = .ok (some e) := by
  unfold readView
  split
  · rename_i members stop
    constructor
    · intro h
      obtain ⟨model, hfold, h⟩ := bind_eq_ok.mp h
      obtain ⟨⟨⟩, hstop, h⟩ := bind_eq_ok.mp h
      obtain rfl := objectFault?_eq_none.mp (orFault_eq_ok.mp (mapError_eq_ok.mp hstop))
      obtain rfl := required_eq_ok.mp (mapError_eq_ok.mp h)
      exact ⟨members, rfl, hfold⟩
    · rintro ⟨ms, hms, hfold⟩
      obtain ⟨rfl, rfl⟩ := treeMembersAs_object.mp hms
      exact bind_eq_ok.mpr ⟨some e, hfold, rfl⟩
  · rename_i stop
    refine iff_of_false (fun h ↦ ?_) ?_
    · obtain ⟨⟨⟩, -, h⟩ := bind_eq_ok.mp h
      cases h
    · rintro ⟨ms, hms, hfold⟩
      obtain ⟨-, -, rfl⟩ := treeMembersAs_array.mp hms
      cases hfold
  · rename_i model surplus stop
    have hone : [((.ok "model" : Key), model)].foldlM takeModel none = .ok (some e) ↔
        readModel model = .ok e := by
      have htake : takeModel none (.ok "model", model) =
          readModel model >>= fun e ↦ .ok (some e) := rfl
      rw [List.foldlM_cons, htake]
      cases readModel model <;> simp [bind, Except.bind, pure, Except.pure]
    constructor
    · intro h
      obtain ⟨found, hfound, h⟩ := bind_eq_ok.mp h
      obtain ⟨hsurplus, h⟩ := unless_throw_eq_ok.mp h
      obtain ⟨⟨⟩, hstop, h⟩ := bind_eq_ok.mp h
      obtain rfl := Except.ok.inj h
      obtain rfl := surplusFault?_eq_none.mp (orFault_eq_ok.mp (mapError_eq_ok.mp hstop))
      obtain rfl := not_not.mp hsurplus
      exact ⟨_, rfl, hone.mpr hfound⟩
    · rintro ⟨ms, hms, hfold⟩
      obtain ⟨rfl, hlength, rfl⟩ := treeMembersAs_array.mp hms
      obtain rfl : surplus = [] := by
        rw [← List.length_eq_zero_iff]
        simpa using hlength
      exact bind_eq_ok.mpr ⟨e, hone.mp hfold, unless_throw_eq_ok.mpr ⟨by simp, rfl⟩⟩
  · rename_i hobject hnil hcons
    refine iff_of_false (by simp) ?_
    rintro ⟨ms, hms, -⟩
    cases t with
    | object members stop => exact hobject members stop rfl
    | array items stop =>
      cases items with
      | nil => exact hnil stop rfl
      | cons model surplus => exact hcons model surplus stop rfl
    | null | boolean | number | text | broken => cases hms

/-- A view is read as what its one model is, whatever else it has. -/
theorem readView_eq_ok : readView t = .ok e ↔ ∃ ms, treeMembersAs ["model"] t = some ms ∧
    (∀ m ∈ ms, Accepts ["model"] m) ∧ viewSlot.Holds ms (some e) := by
  rw [readView_eq_ok_iff_foldlM]
  refine exists_congr fun ms ↦ and_congr_right fun _ ↦ ?_
  have hempty : ∀ slot ∈ [viewSlot], slot.get none = none :=
    List.forall_mem_singleton.mpr rfl
  constructor
  · intro hfold
    obtain ⟨haccepts, hholds⟩ := takeModel_fills.holds hempty hfold
    exact ⟨haccepts, hholds viewSlot List.mem_cons_self⟩
  · rintro ⟨haccepts, hholds⟩
    obtain ⟨model, hfold⟩ := takeModel_fills.exists_foldlM hempty haccepts
      (List.forall_mem_singleton.mpr ⟨_, hholds⟩)
    have hmodel := (takeModel_fills.holds hempty hfold).2 viewSlot List.mem_cons_self
    obtain rfl : model = some e := hmodel.unique hholds
    exact hfold

/-- The views of a diagram are the elements of an array. -/
theorem readViews_eq_ok {es : List Element} : readViews t = .ok es ↔
    ∃ views, t = .array views .closed ∧ views.mapM readView = .ok es := by
  unfold readViews
  split
  · rename_i views stop
    constructor
    · intro h
      obtain ⟨found, hfound, h⟩ := bind_eq_ok.mp h
      obtain ⟨⟨⟩, hstop, h⟩ := bind_eq_ok.mp h
      obtain rfl := Except.ok.inj h
      obtain rfl := arrayFault?_eq_none.mp (orFault_eq_ok.mp (mapError_eq_ok.mp hstop))
      exact ⟨views, rfl, hfound⟩
    · rintro ⟨views', hviews, hread⟩
      obtain ⟨rfl, rfl⟩ := Tree.array.inj hviews
      exact bind_eq_ok.mpr ⟨es, hread, rfl⟩
  · rename_i hother
    refine iff_of_false (by simp) ?_
    rintro ⟨views, rfl, -⟩
    exact hother views .closed rfl

end Views

/-! ### Diagrams -/

/-- The name of a diagram. -/
def nameSlot : Slot DiagramDraft Key Tree ReadError :=
  treeSlot "name" (readTextTree "a string") DiagramDraft.name

/-- The views of a diagram. -/
def viewsSlot : Slot DiagramDraft Key Tree ReadError :=
  treeSlot "views" readViews DiagramDraft.elements

theorem DiagramDraft.take_fills :
    Fills DiagramDraft.take (Accepts ["name", "views"]) [nameSlot, viewsSlot] where
  takes := by
    rintro d ⟨k, t⟩ next h
    obtain ⟨key, hkey, h⟩ := bind_eq_ok.mp h
    obtain rfl := readKey_eq_ok.mp hkey
    simp only [List.forall_mem_cons, List.not_mem_nil, false_implies, implies_true, and_true]
    split at h
    · obtain ⟨⟨⟩, hfree, h⟩ := bind_eq_ok.mp h
      obtain ⟨name, hname, h⟩ := bind_eq_ok.mp h
      obtain rfl := Except.ok.inj h
      refine ⟨⟨"name", rfl, fun hunknown ↦ absurd List.mem_cons_self hunknown⟩, ?_, ?_⟩
      · exact (Slot.takes_iff (takes_treeSlot.mpr rfl)).mpr
          ⟨unlessRepeated_eq_ok.mp hfree, name, hname, rfl⟩
      · exact (Slot.takes_iff_of_not (by simp [viewsSlot, treeSlot, Except.toOption])).mpr rfl
    · obtain ⟨⟨⟩, hfree, h⟩ := bind_eq_ok.mp h
      obtain ⟨elements, helements, h⟩ := bind_eq_ok.mp h
      obtain rfl := Except.ok.inj h
      refine ⟨⟨"views", rfl, fun hunknown ↦ absurd (by simp) hunknown⟩, ?_, ?_⟩
      · exact (Slot.takes_iff_of_not (by simp [nameSlot, treeSlot, Except.toOption])).mpr rfl
      · exact (Slot.takes_iff (takes_treeSlot.mpr rfl)).mpr
          ⟨unlessRepeated_eq_ok.mp hfree, elements, helements, rfl⟩
    · rename_i hname hviews
      obtain ⟨⟨⟩, hskip, h⟩ := bind_eq_ok.mp h
      obtain rfl := Except.ok.inj h
      refine ⟨⟨key, rfl, fun _ ↦ mapError_eq_ok.mp hskip⟩, ?_, ?_⟩
      · exact (Slot.takes_iff_of_not
          (by simpa [nameSlot, treeSlot, Except.toOption] using hname)).mpr rfl
      · exact (Slot.takes_iff_of_not
          (by simpa [viewsSlot, treeSlot, Except.toOption] using hviews)).mpr rfl
  exists_take := by
    rintro d ⟨k, t⟩ ⟨key, rfl, hskip⟩ h
    simp only [List.forall_mem_cons, List.not_mem_nil, false_implies, implies_true, and_true,
      Slot.exists_takes_iff] at h
    obtain ⟨hname, hviews⟩ := h
    unfold DiagramDraft.take
    dsimp only [readKey, bind, Except.bind]
    split
    · obtain ⟨hfree, name, hread⟩ := hname (takes_treeSlot.mpr rfl)
      exact ⟨_, bind_eq_ok.mpr ⟨(), unlessRepeated_eq_ok.mpr hfree,
        bind_eq_ok.mpr ⟨name, hread, rfl⟩⟩⟩
    · obtain ⟨hfree, elements, hread⟩ := hviews (takes_treeSlot.mpr rfl)
      exact ⟨_, bind_eq_ok.mpr ⟨(), unlessRepeated_eq_ok.mpr hfree,
        bind_eq_ok.mpr ⟨elements, hread, rfl⟩⟩⟩
    · rename_i hnoName hnoViews
      refine ⟨d, bind_eq_ok.mpr ⟨(), mapError_eq_ok.mpr (hskip ?_), rfl⟩⟩
      simpa using ⟨hnoName, hnoViews⟩

section Diagrams

variable {t : Tree} {d : Diagram}

/-- The diagram that the fields of a draft come to. -/
def DiagramDraft.finish (draft : DiagramDraft) : Diagram where
  name := draft.name.getD ""
  elements := draft.elements.getD []

theorem readDiagram_eq_ok_iff_foldlM : readDiagram t = .ok d ↔
    ∃ ms draft, treeMembersAs ["name", "views"] t = some ms ∧
      ms.foldlM DiagramDraft.take {} = .ok draft ∧ draft.finish = d := by
  unfold readDiagram
  split
  · rename_i members stop
    constructor
    · intro h
      obtain ⟨draft, hfold, h⟩ := bind_eq_ok.mp h
      obtain ⟨⟨⟩, hstop, h⟩ := bind_eq_ok.mp h
      obtain rfl := objectFault?_eq_none.mp (orFault_eq_ok.mp (mapError_eq_ok.mp hstop))
      exact ⟨members, draft, rfl, hfold, Except.ok.inj h⟩
    · rintro ⟨ms, draft, hms, hfold, rfl⟩
      obtain ⟨rfl, rfl⟩ := treeMembersAs_object.mp hms
      exact bind_eq_ok.mpr ⟨draft, hfold, rfl⟩
  · rename_i stop
    constructor
    · intro h
      obtain ⟨⟨⟩, hstop, h⟩ := bind_eq_ok.mp h
      obtain rfl := arrayFault?_eq_none.mp (orFault_eq_ok.mp (mapError_eq_ok.mp hstop))
      exact ⟨[], {}, rfl, rfl, Except.ok.inj h⟩
    · rintro ⟨ms, draft, hms, hfold, rfl⟩
      obtain ⟨rfl, -, rfl⟩ := treeMembersAs_array.mp hms
      obtain rfl := Except.ok.inj hfold
      rfl
  · rename_i name stop
    constructor
    · intro h
      obtain ⟨text, hname, h⟩ := bind_eq_ok.mp h
      obtain ⟨⟨⟩, hstop, h⟩ := bind_eq_ok.mp h
      obtain rfl := arrayFault?_eq_none.mp (orFault_eq_ok.mp (mapError_eq_ok.mp hstop))
      exact ⟨_, { name := text }, rfl, bind_eq_ok.mpr ⟨{ name := text },
        bind_eq_ok.mpr ⟨text, hname, rfl⟩, rfl⟩, Except.ok.inj h⟩
    · rintro ⟨ms, draft, hms, hfold, rfl⟩
      obtain ⟨rfl, -, rfl⟩ := treeMembersAs_array.mp hms
      obtain ⟨next, hnext, hlast⟩ := bind_eq_ok.mp hfold
      obtain ⟨text, hname, hnext⟩ := bind_eq_ok.mp hnext
      obtain rfl := Except.ok.inj hnext
      obtain rfl := Except.ok.inj hlast
      exact bind_eq_ok.mpr ⟨text, hname, rfl⟩
  · rename_i name views surplus stop
    constructor
    · intro h
      obtain ⟨text, hname, h⟩ := bind_eq_ok.mp h
      obtain ⟨elements, hviews, h⟩ := bind_eq_ok.mp h
      obtain ⟨hsurplus, h⟩ := unless_throw_eq_ok.mp h
      obtain ⟨⟨⟩, hstop, h⟩ := bind_eq_ok.mp h
      obtain rfl := surplusFault?_eq_none.mp (orFault_eq_ok.mp (mapError_eq_ok.mp hstop))
      obtain rfl := not_not.mp hsurplus
      exact ⟨_, { name := text, elements }, rfl, bind_eq_ok.mpr ⟨{ name := text },
        bind_eq_ok.mpr ⟨text, hname, rfl⟩, bind_eq_ok.mpr ⟨{ name := text, elements },
          bind_eq_ok.mpr ⟨elements, hviews, rfl⟩, rfl⟩⟩, Except.ok.inj h⟩
    · rintro ⟨ms, draft, hms, hfold, rfl⟩
      obtain ⟨rfl, hlength, rfl⟩ := treeMembersAs_array.mp hms
      obtain rfl : surplus = [] := by
        rw [← List.length_eq_zero_iff]
        simpa using hlength
      obtain ⟨next, hnext, hrest⟩ := bind_eq_ok.mp hfold
      obtain ⟨text, hname, hnext⟩ := bind_eq_ok.mp hnext
      obtain rfl := Except.ok.inj hnext
      obtain ⟨last, hlast, hdraft⟩ := bind_eq_ok.mp hrest
      obtain ⟨elements, hviews, hlast⟩ := bind_eq_ok.mp hlast
      obtain rfl := Except.ok.inj hlast
      obtain rfl := Except.ok.inj hdraft
      exact bind_eq_ok.mpr ⟨text, hname, bind_eq_ok.mpr ⟨elements, hviews,
        unless_throw_eq_ok.mpr ⟨by simp, rfl⟩⟩⟩
  · rename_i hobject hnil hname hcons
    refine iff_of_false (by simp) ?_
    rintro ⟨ms, draft, hms, -⟩
    cases t with
    | object members stop => exact hobject members stop rfl
    | array items stop =>
      rcases items with - | ⟨name, - | ⟨views, surplus⟩⟩
      · exact hnil stop rfl
      · exact hname name stop rfl
      · exact hcons name views surplus stop rfl
    | null | boolean | number | text | broken => cases hms

/-- A diagram is read from its name and its views, if it has them, whatever else it has. -/
theorem readDiagram_eq_ok : readDiagram t = .ok d ↔
    ∃ ms, ∃ name : Option String, ∃ elements : Option (List Element),
      treeMembersAs ["name", "views"] t = some ms ∧
      (∀ m ∈ ms, Accepts ["name", "views"] m) ∧ nameSlot.Holds ms name ∧
        viewsSlot.Holds ms elements ∧ d = ⟨name.getD "", elements.getD []⟩ := by
  rw [readDiagram_eq_ok_iff_foldlM]
  have hempty : ∀ slot ∈ [nameSlot, viewsSlot], slot.get {} = none :=
    List.forall_mem_cons.mpr ⟨rfl, List.forall_mem_singleton.mpr rfl⟩
  constructor
  · rintro ⟨ms, draft, hms, hfold, rfl⟩
    obtain ⟨haccepts, hholds⟩ := DiagramDraft.take_fills.holds hempty hfold
    exact ⟨ms, draft.name, draft.elements, hms, haccepts, hholds nameSlot (by simp),
      hholds viewsSlot (by simp), rfl⟩
  · rintro ⟨ms, name, elements, hms, haccepts, hname, hviews, rfl⟩
    obtain ⟨draft, hfold⟩ := DiagramDraft.take_fills.exists_foldlM hempty haccepts
      (List.forall_mem_cons.mpr ⟨⟨_, hname⟩, List.forall_mem_singleton.mpr ⟨_, hviews⟩⟩)
    obtain ⟨-, hholds⟩ := DiagramDraft.take_fills.holds hempty hfold
    have hdraftName : draft.name = name := (hholds nameSlot (by simp)).unique hname
    have hdraftViews : draft.elements = elements := (hholds viewsSlot (by simp)).unique hviews
    refine ⟨ms, draft, hms, hfold, ?_⟩
    rw [DiagramDraft.finish, hdraftName, hdraftViews]

/-- A document is read as the diagram in its tree, if nothing follows that. -/
theorem parse_eq_ok {text : String} : parse text = .ok d ↔
    readDiagram (Tree.ofText text).1 = .ok d ∧ (Tree.ofText text).2 = false := by
  unfold parse
  constructor
  · intro h
    obtain ⟨found, hfound, h⟩ := bind_eq_ok.mp h
    obtain ⟨hmore, h⟩ := unless_throw_eq_ok.mp h
    obtain rfl := Except.ok.inj h
    exact ⟨hfound, (Bool.not_eq_true _).mp hmore⟩
  · rintro ⟨hread, hmore⟩
    exact bind_eq_ok.mpr ⟨d, hread, unless_throw_eq_ok.mpr
      ⟨(Bool.not_eq_true _).mpr hmore, rfl⟩⟩

end Diagrams

end DiagramMigrations.Diagram
