import DiagramMigrations.Json.Tree
import DiagramMigrations.Proofs.Except
import DiagramMigrations.Proofs.Json.Token

/-!
The tree of a printed value. It is built from the tokens frame by frame, has no break in it, and
the value that is read from it is the one that was printed, unless it nests too deep.
-/

set_option autoImplicit false
set_option relaxedAutoImplicit false

namespace DiagramMigrations.Json

mutual

/-- The tree of a value. -/
def tree : Json → Tree
  | .null => .null
  | .boolean value => .boolean value
  | .number value => .number value.spelling
  | .text value => .text (.ok value)
  | .array items => .array (trees items) .closed
  | .object members => .object (memberTrees members) .closed

/-- The trees of elements. -/
def trees : List Json → List Tree
  | [] => []
  | item :: rest => tree item :: trees rest

/-- The keys and trees of members. -/
def memberTrees : List (String × Json) → List (Key × Tree)
  | [] => []
  | (key, value) :: rest => (.ok key, tree value) :: memberTrees rest

end

theorem trees_eq (items : List Json) : trees items = items.map tree := by
  induction items with
  | nil => rfl
  | cons item rest ih => rw [trees, ih, List.map_cons]

/-! ### Building the tree -/

section Building

variable {outer inner : List Frame} {expect : Expect} {rest : List Token}

/-- The reading after one token: it goes on, or it is over. -/
def resume : Progress → List Token → Tree × List Token
  | .going outer expect, rest => readTree outer expect rest
  | .complete tree, rest => (tree, rest)
  | .broken tree, rest => (tree, rest)

theorem readTree_cons (outer : List Frame) (expect : Expect) (token : Token)
    (rest : List Token) :
    readTree outer expect (token :: rest) = resume (Progress.step outer expect token) rest := by
  rw [readTree]
  cases Progress.step outer expect token <;> rfl

/-- Where a value may begin, and the frames around it once it has. -/
inductive Opens : List Frame → Expect → List Frame → Prop
  | value (outer : List Frame) : Opens outer .value outer
  | firstItem (outer : List Frame) : Opens outer .firstItem (.items [] :: outer)
  | nextItem (outer : List Frame) (done : List Tree) :
    Opens outer (.nextItem done) (.items done :: outer)

theorem Opens.step_eq {token : Token} (h : Opens outer expect inner)
    (htoken : token ≠ .closeArray) :
    Progress.step outer expect token = Progress.begin inner token := by
  cases h with
  | value => rfl
  | firstItem | nextItem => cases token <;> first | rfl | exact absurd rfl htoken

/-- Whether the tokens of a value are read as its tree, wherever the value may begin. -/
def Builds (v : Json) : Prop :=
  ∀ {outer inner : List Frame} {expect : Expect} (rest : List Token), Opens outer expect inner →
    readTree outer expect (tokenList v ++ rest) = resume (Progress.place inner v.tree) rest

theorem readTree_itemTokens {items : List Json} (h : ∀ item ∈ items, Builds item)
    (done : List Tree) (rest : List Token) :
    readTree outer (.itemEnd done) (itemTokens items ++ .closeArray :: rest) =
      resume (Progress.place outer (.array (done.reverse ++ trees items) .closed)) rest := by
  induction items generalizing done with
  | nil =>
    rw [trees, List.append_nil]
    exact readTree_cons outer _ _ rest
  | cons item items ih =>
    obtain ⟨hitem, hitems⟩ := List.forall_mem_cons.mp h
    rw [itemTokens]
    simp only [List.cons_append, List.append_assoc]
    rw [readTree_cons]
    change readTree outer (.nextItem done) _ = _
    rw [hitem _ (.nextItem outer done)]
    change readTree outer (.itemEnd (item.tree :: done)) _ = _
    rw [ih hitems, List.reverse_cons, List.append_assoc, List.singleton_append, trees]

theorem readTree_memberTokens {members : List (String × Json)} (h : ∀ m ∈ members, Builds m.2)
    (done : List (Key × Tree)) (rest : List Token) :
    readTree outer (.memberEnd done) (memberTokens members ++ .closeObject :: rest) =
      resume (Progress.place outer (.object (done.reverse ++ memberTrees members) .closed))
        rest := by
  induction members generalizing done with
  | nil =>
    rw [memberTrees, List.append_nil]
    exact readTree_cons outer _ _ rest
  | cons m members ih =>
    obtain ⟨key, value⟩ := m
    obtain ⟨hvalue, hmembers⟩ := List.forall_mem_cons.mp h
    rw [memberTokens]
    simp only [List.cons_append, List.append_assoc]
    rw [readTree_cons]
    change readTree outer (.nextKey done) _ = _
    rw [readTree_cons]
    change readTree outer (.colon done (.ok key)) _ = _
    rw [readTree_cons]
    change readTree (.member done (.ok key) :: outer) .value _ = _
    rw [hvalue _ (.value _)]
    change readTree outer (.memberEnd ((.ok key, value.tree) :: done)) _ = _
    rw [ih hmembers, List.reverse_cons, List.append_assoc, List.singleton_append, memberTrees]

theorem builds_of_single {v : Json} {token : Token} (htokens : tokenList v = [token])
    (htoken : token ≠ .closeArray)
    (hbegin : ∀ outer, Progress.begin outer token = Progress.place outer v.tree) : Builds v := by
  intro outer inner expect rest hopens
  rw [htokens, List.singleton_append, readTree_cons, hopens.step_eq htoken, hbegin]

/-- The tokens of a value are read as its tree. -/
theorem builds (v : Json) : Builds v := by
  induction v using induction with
  | null => exact builds_of_single rfl (by simp) fun outer ↦ rfl
  | boolean value => exact builds_of_single rfl (by simp) fun outer ↦ rfl
  | number n => exact builds_of_single rfl (by simp) fun outer ↦ rfl
  | text s => exact builds_of_single rfl (by simp) fun outer ↦ rfl
  | array items ih =>
    intro outer inner expect rest hopens
    cases items with
    | nil =>
      rw [tokenList, List.cons_append, readTree_cons, hopens.step_eq (by simp)]
      exact readTree_cons inner .firstItem .closeArray rest
    | cons item items =>
      obtain ⟨hitem, hitems⟩ := List.forall_mem_cons.mp ih
      rw [tokenList]
      simp only [List.cons_append, List.append_assoc, List.nil_append]
      rw [readTree_cons, hopens.step_eq (by simp)]
      change readTree inner .firstItem _ = _
      rw [hitem _ (.firstItem inner)]
      exact readTree_itemTokens hitems [item.tree] rest
  | object members ih =>
    intro outer inner expect rest hopens
    cases members with
    | nil =>
      rw [tokenList, List.cons_append, readTree_cons, hopens.step_eq (by simp)]
      exact readTree_cons inner .firstKey .closeObject rest
    | cons m members =>
      obtain ⟨key, value⟩ := m
      obtain ⟨hvalue, hmembers⟩ := List.forall_mem_cons.mp ih
      rw [tokenList]
      simp only [List.cons_append, List.append_assoc, List.nil_append]
      rw [readTree_cons, hopens.step_eq (by simp)]
      change readTree inner .firstKey _ = _
      rw [readTree_cons]
      change readTree inner (.colon [] (.ok key)) _ = _
      rw [readTree_cons]
      change readTree (.member [] (.ok key) :: inner) .value _ = _
      rw [hvalue _ (.value _)]
      exact readTree_memberTokens hmembers [(.ok key, value.tree)] rest

/-- The tree of the text of a value, with nothing left of the text. -/
theorem ofText_render {v : Json} (hv : v.HasWords) : Tree.ofText v.render = (v.tree, false) := by
  have htree := builds v [] (.value [])
  rw [List.append_nil] at htree
  rw [Tree.ofText, tokens_render hv, htree]
  rfl

end Building

/-! ### Reading the tree -/

section Reading

variable {room : Nat}

theorem values_trees {items : List Json}
    (h : ∀ item ∈ items,
      Tree.value room item.tree = if item.depth ≤ room then .ok item else .error .tooDeep) :
    Tree.values room (trees items) =
      if itemsDepth items ≤ room then .ok items else .error .tooDeep := by
  induction items with
  | nil => rw [trees, Tree.values, itemsDepth, if_pos (Nat.zero_le room)]
  | cons item items ih =>
    obtain ⟨hitem, hitems⟩ := List.forall_mem_cons.mp h
    rw [trees, Tree.values, hitem, ih hitems, bind_ite_bind_ite, itemsDepth]
    simp only [max_le_iff]
    rfl

theorem memberValues_memberTrees {members : List (String × Json)}
    (h : ∀ m ∈ members,
      Tree.value room m.2.tree = if m.2.depth ≤ room then .ok m.2 else .error .tooDeep) :
    Tree.memberValues room (memberTrees members) =
      if membersDepth members ≤ room then .ok members else .error .tooDeep := by
  induction members with
  | nil => rw [memberTrees, Tree.memberValues, membersDepth, if_pos (Nat.zero_le room)]
  | cons m members ih =>
    obtain ⟨key, value⟩ := m
    obtain ⟨hvalue, hmembers⟩ := List.forall_mem_cons.mp h
    rw [memberTrees, Tree.memberValues, hvalue, ih hmembers, bind_ite_bind_ite, membersDepth]
    simp only [max_le_iff]
    rfl

/-- A value is read from its own tree, unless it nests deeper than there is room. -/
theorem value_tree {v : Json} (hwords : v.HasWords) :
    Tree.value room v.tree = if v.depth ≤ room then .ok v else .error .tooDeep := by
  induction v using induction generalizing room with
  | null | boolean | text => simp [tree, Tree.value, depth]
  | number n =>
    rw [tree, Tree.value, Number.ofSpelling?_spelling (hasWords_number.mp hwords)]
    rfl
  | array items ih =>
    rw [hasWords_array] at hwords
    cases room with
    | zero => rfl
    | succ room =>
      rw [tree, Tree.value, values_trees fun item hitem ↦ ih item hitem (hwords item hitem), depth]
      simp only [Nat.add_le_add_iff_right]
      split_ifs <;> rfl
  | object members ih =>
    rw [hasWords_object] at hwords
    cases room with
    | zero => rfl
    | succ room =>
      rw [tree, Tree.value, memberValues_memberTrees fun m hm ↦ ih m hm (hwords m hm), depth]
      simp only [Nat.add_le_add_iff_right]
      split_ifs <;> rfl

end Reading

/-! ### The depth of what is read -/

namespace Tree

mutual

/-- A value that is read nests no deeper than there is room. -/
theorem depth_le_of_value {room : Nat} {t : Tree} {v : Json} (h : t.value room = .ok v) :
    v.depth ≤ room := by
  cases t with
  | null | boolean =>
    rw [value] at h
    cases h
    exact Nat.zero_le _
  | number spelling =>
    rw [value] at h
    split at h
    · cases h
      exact Nat.zero_le _
    · cases h
  | text content =>
    cases content with
    | error place => rw [value] at h; cases h
    | ok s => rw [value] at h; cases h; exact Nat.zero_le _
  | broken place => rw [value] at h; cases h
  | array items stop =>
    cases room with
    | zero => rw [value] at h; cases h
    | succ room =>
      rw [value] at h
      obtain ⟨read, hread, h⟩ := bind_eq_ok.mp h
      obtain ⟨_, _, h⟩ := bind_eq_ok.mp h
      cases h
      exact depth_array_le.mpr (depth_le_of_values hread)
  | object members stop =>
    cases room with
    | zero => rw [value] at h; cases h
    | succ room =>
      rw [value] at h
      obtain ⟨read, hread, h⟩ := bind_eq_ok.mp h
      obtain ⟨_, _, h⟩ := bind_eq_ok.mp h
      cases h
      exact depth_object_le.mpr (depth_le_of_memberValues hread)

theorem depth_le_of_values {room : Nat} {ts : List Tree} {items : List Json}
    (h : values room ts = .ok items) : ∀ item ∈ items, item.depth ≤ room := by
  cases ts with
  | nil => rw [values] at h; cases h; exact fun _ h ↦ absurd h List.not_mem_nil
  | cons t ts =>
    rw [values] at h
    obtain ⟨item, hitem, h⟩ := bind_eq_ok.mp h
    obtain ⟨rest, hrest, h⟩ := bind_eq_ok.mp h
    cases h
    exact List.forall_mem_cons.mpr ⟨depth_le_of_value hitem, depth_le_of_values hrest⟩

theorem depth_le_of_memberValues {room : Nat} {ts : List (Key × Tree)}
    {members : List (String × Json)} (h : memberValues room ts = .ok members) :
    ∀ m ∈ members, m.2.depth ≤ room := by
  cases ts with
  | nil => rw [memberValues] at h; cases h; exact fun _ h ↦ absurd h List.not_mem_nil
  | cons m ts =>
    obtain ⟨key, t⟩ := m
    cases key with
    | error place => rw [memberValues] at h; cases h
    | ok key =>
      rw [memberValues] at h
      obtain ⟨item, hitem, h⟩ := bind_eq_ok.mp h
      obtain ⟨rest, hrest, h⟩ := bind_eq_ok.mp h
      cases h
      exact List.forall_mem_cons.mpr ⟨depth_le_of_value hitem, depth_le_of_memberValues hrest⟩

end

mutual

/-- What can be read can be passed over. -/
theorem skip_of_value {room : Nat} {t : Tree} {v : Json} (h : t.value room = .ok v) :
    t.skip = .ok () := by
  cases t with
  | null | boolean | number => rw [skip]
  | text content =>
    cases content with
    | error place => rw [value] at h; cases h
    | ok s => rw [skip]
  | broken place => rw [value] at h; cases h
  | array items stop =>
    cases room with
    | zero => rw [value] at h; cases h
    | succ room =>
      rw [value] at h
      obtain ⟨read, hread, h⟩ := bind_eq_ok.mp h
      obtain ⟨⟨⟩, hstop, -⟩ := bind_eq_ok.mp h
      rw [skip]
      refine bind_eq_ok.mpr ⟨(), skipItems_of_values hread, ?_⟩
      cases stop <;> first | rfl | cases hstop
  | object members stop =>
    cases room with
    | zero => rw [value] at h; cases h
    | succ room =>
      rw [value] at h
      obtain ⟨read, hread, h⟩ := bind_eq_ok.mp h
      obtain ⟨⟨⟩, hstop, -⟩ := bind_eq_ok.mp h
      rw [skip]
      refine bind_eq_ok.mpr ⟨(), skipMembers_of_memberValues hread, ?_⟩
      cases stop <;> first | rfl | cases hstop

theorem skipItems_of_values {room : Nat} {ts : List Tree} {items : List Json}
    (h : values room ts = .ok items) : skipItems ts = .ok () := by
  cases ts with
  | nil => rw [skipItems]
  | cons t ts =>
    rw [values] at h
    obtain ⟨item, hitem, h⟩ := bind_eq_ok.mp h
    obtain ⟨rest, hrest, -⟩ := bind_eq_ok.mp h
    rw [skipItems]
    exact bind_eq_ok.mpr ⟨(), skip_of_value hitem, skipItems_of_values hrest⟩

theorem skipMembers_of_memberValues {room : Nat} {ts : List (Key × Tree)}
    {members : List (String × Json)} (h : memberValues room ts = .ok members) :
    skipMembers ts = .ok () := by
  cases ts with
  | nil => rw [skipMembers]
  | cons m ts =>
    obtain ⟨key, t⟩ := m
    cases key with
    | error place => rw [memberValues] at h; cases h
    | ok key =>
      rw [memberValues] at h
      obtain ⟨item, hitem, h⟩ := bind_eq_ok.mp h
      obtain ⟨rest, hrest, -⟩ := bind_eq_ok.mp h
      rw [skipMembers]
      exact bind_eq_ok.mpr ⟨(), skip_of_value hitem, skipMembers_of_memberValues hrest⟩

end

end Tree

end DiagramMigrations.Json
