import DiagramMigrations.Proofs.Order.Acyclic

/-!
A table that no other one refers to can be taken away, with the associations it holds, without a
change to the order of the others. Nothing waits for it; so at each turn the same tables can be
placed with it and without it, and the choice only passes over the turn that is its own.
-/

set_option autoImplicit false
set_option relaxedAutoImplicit false

namespace DiagramMigrations.Order

/-! ### Positions without one of them -/

/-- The position in a list of what has a position in the list without the element at `k`. -/
def skip (k i : Nat) : Nat :=
  if i < k then i else i + 1

variable {k n i j : Nat}

theorem skip_ne : skip k i ≠ k := by
  unfold skip
  split_ifs <;> omega

theorem skip_le_skip_iff : skip k i ≤ skip k j ↔ i ≤ j := by
  unfold skip
  split_ifs <;> omega

theorem skip_inj : skip k i = skip k j ↔ i = j := by
  simp only [le_antisymm_iff, skip_le_skip_iff]

theorem skip_lt_succ_iff (hk : k ≤ n) : skip k i < n + 1 ↔ i < n := by
  unfold skip
  split_ifs <;> omega

theorem exists_skip_eq (h : j ≠ k) : ∃ i, skip k i = j := by
  by_cases hlt : j < k
  · exact ⟨j, if_pos hlt⟩
  · refine ⟨j - 1, ?_⟩
    unfold skip
    split_ifs <;> omega

theorem getElem?_eraseIdx_eq {α : Type} (xs : List α) (k i : Nat) :
    (xs.eraseIdx k)[i]? = xs[skip k i]? := by
  rw [List.getElem?_eraseIdx, skip]
  split_ifs <;> rfl

/-! ### Runs without a position that nothing waits for -/

/-- The edges without those of a position that no edge leaves. -/
structure IsWithout (k : Nat) (es fs : List Edge) : Prop where
  sink : ∀ e ∈ es, e.1 ≠ k
  mem_iff : ∀ i j, (i, j) ∈ fs ↔ (skip k i, skip k j) ∈ es

variable {es fs : List Edge} {placed others : List Nat}

theorem IsWithout.mem_frontier_iff (h : IsWithout k es fs) (hk : k ≤ n)
    (hplaced : ∀ i, i ∈ others ↔ skip k i ∈ placed) :
    i ∈ frontier n fs others ↔ skip k i ∈ frontier (n + 1) es placed := by
  rw [mem_frontier, mem_frontier, skip_lt_succ_iff hk, hplaced]
  refine and_congr_right fun _ ↦ and_congr_right fun _ ↦ ⟨fun hall e he htarget ↦ ?_,
    fun hall e he htarget ↦ ?_⟩
  · obtain ⟨source, hsource⟩ := exists_skip_eq (h.sink e he)
    rw [← hsource, ← hplaced]
    refine hall (source, i) ((h.mem_iff _ _).mpr ?_) rfl
    rwa [hsource, ← htarget]
  · rw [hplaced]
    refine hall (skip k e.1, skip k e.2) ((h.mem_iff _ _).mp he) ?_
    rw [htarget]

/-- What is next with the position is next without it, if it is another one. -/
theorem IsWithout.isNext (h : IsWithout k es fs) (hk : k ≤ n)
    (hplaced : ∀ i, i ∈ others ↔ skip k i ∈ placed) (hnext : IsNext (n + 1) es placed (skip k i)) :
    IsNext n fs others i := by
  refine ⟨(h.mem_frontier_iff hk hplaced).mpr hnext.1, fun j hj ↦ ?_⟩
  exact skip_le_skip_iff.mp (hnext.2 _ ((h.mem_frontier_iff hk hplaced).mp hj))

/-- A run with the position is one without it, but for its own turn. -/
theorem IsWithout.exists_follows (h : IsWithout k es fs) (hk : k ≤ n) {order : List Nat}
    (hplaced : ∀ i, i ∈ others ↔ skip k i ∈ placed) (hrun : Follows (n + 1) es placed order) :
    ∃ rest, rest.map (skip k) = order.filter (· != k) ∧ Follows n fs others rest := by
  induction order generalizing placed others with
  | nil => exact ⟨[], rfl, trivial⟩
  | cons node later ih =>
    obtain ⟨hnext, hlater⟩ := hrun
    by_cases hnode : node = k
    -- At the turn of the position itself, the run without it stands still.
    · have hsame : ∀ i, i ∈ others ↔ skip k i ∈ placed ++ [node] := fun i ↦ by
        simp [hplaced, hnode, skip_ne]
      obtain ⟨rest, hrest, hfollows⟩ := ih hsame hlater
      refine ⟨rest, ?_, hfollows⟩
      rw [hrest, List.filter_cons_of_neg (by simpa using hnode)]
    · obtain ⟨i, rfl⟩ := exists_skip_eq hnode
      have hmore : ∀ j, j ∈ others ++ [i] ↔ skip k j ∈ placed ++ [skip k i] := fun j ↦ by
        simp [hplaced, skip_inj]
      obtain ⟨rest, hrest, hfollows⟩ := ih hmore hlater
      refine ⟨i :: rest, ?_, h.isNext hk hplaced hnext, hfollows⟩
      rw [List.map_cons, hrest, List.filter_cons_of_pos (by simpa using hnode)]

/-! ### Tables without one of them -/

variable {tables : List Table} {associations : List Association} {t : Table}

/-- A list of distinct tables without the one at a position. -/
theorem filter_eq_eraseIdx (hids : (tables.map Table.id).Nodup) (ht : tables[k]? = some t) :
    (tables.filter fun u ↦ u.id ≠ t.id) = tables.eraseIdx k := by
  have hmem := List.mem_of_getElem? ht
  have hplace : tables.idxOf t = k := place_unique hids (List.getElem?_idxOf hmem) ht rfl
  rw [← List.erase_eq_eraseIdx_of_idxOf hplace, hids.of_map.erase_eq_filter]
  refine List.filter_congr fun u hu ↦ ?_
  have hsame : u.id = t.id ↔ u = t := ⟨List.inj_on_of_nodup_map hids hu hmem, congrArg Table.id⟩
  rw [Bool.eq_iff_iff]
  simp [hsame]

theorem refersTo_eraseIdx_iff (hids : (tables.map Table.id).Nodup) (ht : tables[k]? = some t) :
    RefersTo (tables.eraseIdx k) (associations.filter fun a ↦ a.referencingTable ≠ t.id) i j ↔
      RefersTo tables associations (skip k i) (skip k j) := by
  unfold RefersTo
  rw [getElem?_eraseIdx_eq, getElem?_eraseIdx_eq, ne_eq, ne_eq, skip_inj]
  refine and_congr_right fun _ ↦ exists_congr fun a ↦ ?_
  rw [List.mem_filter, decide_eq_true_eq]
  constructor
  · rintro ⟨⟨ha, -⟩, hends⟩
    exact ⟨ha, hends⟩
  · rintro ⟨ha, hfrom, hto⟩
    refine ⟨⟨ha, fun hholder ↦ ?_⟩, hfrom, hto⟩
    have hsame : (tables[k]?).map Table.id = some a.referencingTable := by
      rw [ht, Option.map_some, hholder]
    exact skip_ne (position_unique hids hfrom hsame)

theorem isWithout_edges (hids : (tables.map Table.id).Nodup) (ht : tables[k]? = some t)
    (hfree : ∀ i, ¬ RefersTo tables associations i k) :
    IsWithout k (edges tables associations) (edges (tables.eraseIdx k)
      (associations.filter fun a ↦ a.referencingTable ≠ t.id)) where
  sink e he hsource := by
    have hedge : (k, e.2) ∈ edges tables associations := hsource ▸ he
    exact hfree e.2 ((mem_edges_iff_refersTo hids).mp hedge)
  mem_iff i j := by
    have hrest : ((tables.eraseIdx k).map Table.id).Nodup :=
      hids.sublist ((List.eraseIdx_sublist tables k).map Table.id)
    rw [mem_edges_iff_refersTo hrest, mem_edges_iff_refersTo hids, refersTo_eraseIdx_iff hids ht]

/-- The tables at the positions of an order, without one of them. -/
theorem filterMap_filter_ne (hids : (tables.map Table.id).Nodup) (ht : tables[k]? = some t)
    (order : List Nat) : (order.filter (· != k)).filterMap (fun i ↦ tables[i]?) =
      (order.filterMap fun i ↦ tables[i]?).filter fun u ↦ u.id ≠ t.id := by
  rw [List.filterMap_filter, List.filter_filterMap]
  refine congrArg (fun f ↦ order.filterMap f) (funext fun i ↦ ?_)
  cases hi : tables[i]? with
  | none => simp
  | some u =>
    have hsame : u.id = t.id ↔ i = k := by
      refine ⟨place_unique hids hi ht, ?_⟩
      rintro rfl
      rw [Option.some.inj (hi.symm.trans ht)]
    rw [Option.filter_some]
    by_cases hik : i = k <;> simp [hsame, hik]

/-- An order of creation without a table that no other one refers to. -/
theorem exists_order_eraseIdx (hids : (tables.map Table.id).Nodup) (ht : tables[k]? = some t)
    (hfree : ∀ i, ¬ RefersTo tables associations i k) {order : List Nat}
    (horder : dependencyOrder tables associations = .ok order) :
    ∃ rest, dependencyOrder (tables.eraseIdx k)
        (associations.filter fun a ↦ a.referencingTable ≠ t.id) = .ok rest ∧
      rest.map (skip k) = order.filter (· != k) := by
  have hperm := dependencyOrder_perm horder
  obtain ⟨rfl, -⟩ := dependencyOrder_eq_ok.mp horder
  obtain ⟨hlt, -⟩ := List.getElem?_eq_some_iff.mp ht
  have hlength : (tables.eraseIdx k).length + 1 = tables.length := by
    rw [List.length_eraseIdx_of_lt hlt]
    omega
  have hrun := @follows_placement tables associations
  rw [← hlength] at hrun
  have hnone : ∀ i, i ∈ ([] : List Nat) ↔ skip k i ∈ ([] : List Nat) := by simp
  obtain ⟨rest, hrest, hfollows⟩ :=
    (isWithout_edges hids ht hfree).exists_follows (by omega) hnone hrun
  have hshorter : rest.length = (tables.eraseIdx k).length := by
    have hmem : k ∈ placement tables associations := hperm.mem_iff.mpr (List.mem_range.mpr hlt)
    have hcount := congrArg List.length hrest
    rw [List.length_map, ← placement_legal.nodup.erase_eq_filter, List.length_erase_of_mem hmem,
      hperm.length_eq, List.length_range] at hcount
    omega
  exact ⟨rest, dependencyOrder_eq_ok.mpr ⟨hfollows.eq_placement hshorter, hshorter.ge⟩, hrest⟩

end DiagramMigrations.Order

namespace DiagramMigrations

open DiagramMigrations.Order

variable {tables : List Table} {associations : List Association}

/-- A table that no other one refers to does not change the order of the others: if there is an
order of creation, there is one without the table and the associations it holds, and in it the
tables follow each other as they did. -/
theorem dependencyOrder_without_unreferenced (hids : (tables.map Table.id).Nodup) {t : Table}
    (ht : t ∈ tables)
    (hfree : ∀ a ∈ associations, a.referencedTable = t.id →
      a.referencingTable = t.id ∨ a.referencingTable ∉ tables.map Table.id)
    {order : List Nat} (horder : dependencyOrder tables associations = .ok order) :
    ∃ rest, dependencyOrder (tables.filter fun u ↦ u.id ≠ t.id)
        (associations.filter fun a ↦ a.referencingTable ≠ t.id) = .ok rest ∧
      (rest.filterMap fun i ↦ (tables.filter fun u ↦ u.id ≠ t.id)[i]?) =
        (order.filterMap fun i ↦ tables[i]?).filter fun u ↦ u.id ≠ t.id := by
  obtain ⟨k, hk⟩ := List.mem_iff_getElem?.mp ht
  have hunreferenced : ∀ i, ¬ RefersTo tables associations i k := by
    rintro i ⟨hne, a, ha, hfrom, hto⟩
    rw [hk, Option.map_some, Option.some.injEq] at hto
    rcases hfree a ha hto.symm with hself | hunknown
    · refine hne (position_unique hids hfrom ?_)
      rw [hk, Option.map_some, hself]
    · obtain ⟨u, hu, hid⟩ := Option.map_eq_some_iff.mp hfrom
      exact hunknown (hid ▸ List.mem_map_of_mem (List.mem_of_getElem? hu))
  obtain ⟨rest, hrest, hskip⟩ := exists_order_eraseIdx hids hk hunreferenced horder
  rw [filter_eq_eraseIdx hids hk]
  refine ⟨rest, hrest, ?_⟩
  calc (rest.filterMap fun i ↦ (tables.eraseIdx k)[i]?)
      = (rest.map (skip k)).filterMap fun i ↦ tables[i]? := by
        rw [List.filterMap_map]
        exact List.filterMap_congr fun i _ ↦ getElem?_eraseIdx_eq tables k i
    _ = (order.filterMap fun i ↦ tables[i]?).filter fun u ↦ u.id ≠ t.id := by
        rw [hskip, filterMap_filter_ne hids hk]

/-- The tables of a shop; an invoice stands before the customer that it refers to in the end. -/
def shopTables : List Table :=
  [⟨"o", "Order", []⟩, ⟨"i", "Invoice", []⟩, ⟨"c", "Customer", []⟩, ⟨"n", "Note", []⟩]

/-- An order refers to its customer, an invoice to its order and to the invoice before it; what else
refers to invoices is not there. -/
def shopLinks : List Association := [
  ⟨"a1", "o", "customer_id", "c", "id"⟩, ⟨"a2", "i", "order_id", "o", "id"⟩,
  ⟨"a3", "i", "earlier_id", "i", "id"⟩, ⟨"a4", "x", "invoice_id", "i", "id"⟩]

/-- Without invoices, customers still come before orders, and notes after both. -/
theorem shop_without_invoices :
    (shopTables.map Table.id).Nodup ∧ dependencyOrder shopTables shopLinks = .ok [2, 0, 1, 3] ∧
      ∃ rest, dependencyOrder (shopTables.filter fun u ↦ u.id ≠ "i")
          (shopLinks.filter fun a ↦ a.referencingTable ≠ "i") = .ok rest ∧
        (rest.filterMap fun i ↦ (shopTables.filter fun u ↦ u.id ≠ "i")[i]?) =
          [⟨"c", "Customer", []⟩, ⟨"o", "Order", []⟩, ⟨"n", "Note", []⟩] := by
  have hids : (shopTables.map Table.id).Nodup := by decide
  have hinvoice : ⟨"i", "Invoice", []⟩ ∈ shopTables := by decide
  have hfree : ∀ a ∈ shopLinks, a.referencedTable = "i" →
      a.referencingTable = "i" ∨ a.referencingTable ∉ shopTables.map Table.id := by decide
  have horder : dependencyOrder shopTables shopLinks = .ok [2, 0, 1, 3] := by decide
  exact ⟨hids, horder, dependencyOrder_without_unreferenced hids hinvoice hfree horder⟩

end DiagramMigrations
