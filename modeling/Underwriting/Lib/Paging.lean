import Underwriting.Lib.OrderBy

/-! # Pages of an ordered table

`ORDER BY key LIMIT limit OFFSET offset`, asked once for each page. Each query may
arrange rows of equal keys in its own way. The pages put together are the rows of
the table, whatever the arrangements, exactly if every group of equal keys is on
one side of each page boundary.
-/

namespace Latest

variable {Row Key : Type} [LinearOrder Key] {key : Row → Key} {rows arranged : List Row} {row x y : Row}

/-- So many pages from an offset on, each cut out of its own arrangement. -/
def browse (order : ℕ → List Row) (limit : ℕ) : (pages offset : ℕ) → List Row
  | 0, _ => []
  | pages + 1, offset => ((order offset).drop offset).take limit ++ browse order limit pages (offset + limit)

/-- The rows before a key. -/
def before (key : Row → Key) (rows : List Row) (row : Row) : ℕ := rows.countP fun other => key other < key row

/-- The rows up to a key. -/
def upTo (key : Row → Key) (rows : List Row) (row : Row) : ℕ := rows.countP fun other => key other ≤ key row

/-- No group of equal keys has rows on both sides of the position. -/
def Whole (key : Row → Key) (rows : List Row) (position : ℕ) : Prop :=
  ∀ row ∈ rows, position ≤ before key rows row ∨ upTo key rows row ≤ position

/-! ## Positions of sorted rows -/

theorem before_append (front back : List Row) :
    before key (front ++ back) row = before key front row + before key back row :=
  List.countP_append

theorem upTo_append (front back : List Row) :
    upTo key (front ++ back) row = upTo key front row + upTo key back row :=
  List.countP_append

theorem before_le (key : Row → Key) (rows : List Row) (row : Row) : before key rows row ≤ rows.length :=
  List.countP_le_length

theorem before_eq_zero (above : ∀ other ∈ rows, key row ≤ key other) : before key rows row = 0 :=
  List.countP_eq_zero.mpr fun other member => by simpa using above other member

theorem before_eq_length (below : ∀ other ∈ rows, key other < key row) : before key rows row = rows.length :=
  List.countP_eq_length.mpr fun other member => by simpa using below other member

theorem upTo_eq_zero (above : ∀ other ∈ rows, key row < key other) : upTo key rows row = 0 :=
  List.countP_eq_zero.mpr fun other member => by simpa using above other member

theorem upTo_eq_length (below : ∀ other ∈ rows, key other ≤ key row) : upTo key rows row = rows.length :=
  List.countP_eq_length.mpr fun other member => by simpa using below other member

/-- A row of sorted rows stands among those with its key. -/
theorem position_sorted {front back : List Row}
    (sorted : (front ++ row :: back).Pairwise fun a b => key a ≤ key b) :
    before key (front ++ row :: back) row ≤ front.length ∧ front.length < upTo key (front ++ row :: back) row := by
  obtain ⟨-, sorted', ordered⟩ := List.pairwise_append.mp sorted
  have after : before key (row :: back) row = 0 := by
    apply before_eq_zero
    intro other member
    rcases List.mem_cons.mp member with rfl | later
    · exact le_refl _
    · exact (List.pairwise_cons.mp sorted').1 other later
  have ahead : upTo key front row = front.length :=
    upTo_eq_length fun other member => ordered other member row List.mem_cons_self
  have here : 0 < upTo key (row :: back) row :=
    List.countP_pos_iff.mpr ⟨row, List.mem_cons_self, by simp⟩
  rw [before_append, upTo_append, after, ahead]
  have bound := before_le key front row
  omega

/-- The same counts for every arrangement. -/
theorem whole_perm (perm : arranged.Perm rows) {position : ℕ} :
    Whole key arranged position ↔ Whole key rows position := by
  simp only [Whole, before, upTo, perm.countP_eq, perm.mem_iff]

/-- Only the keys matter. -/
theorem whole_map {Row' : Type} {f : Row' → Row} {rows : List Row'} {position : ℕ} :
    Whole key (rows.map f) position ↔ Whole (fun row => key (f row)) rows position := by
  simp only [Whole, before, upTo, List.countP_map, List.forall_mem_map]
  rfl

/-- Where no group is cut, the first rows are those of the keys that end there. -/
theorem take_eq_filter (sorted : arranged.Pairwise fun a b => key a ≤ key b) {position : ℕ}
    (whole : Whole key arranged position) :
    arranged.take position = arranged.filter fun row => upTo key arranged row ≤ position := by
  have split := List.take_append_drop position arranged
  have first : ∀ row ∈ arranged.take position, upTo key arranged row ≤ position := by
    intro row member
    obtain ⟨front, back, cut⟩ := List.append_of_mem member
    have shape : arranged = front ++ row :: (back ++ arranged.drop position) := by
      rw [← List.cons_append, ← List.append_assoc, ← cut, split]
    have inside : front.length < position := by
      have taken := List.length_take_le position arranged
      rw [cut, List.length_append, List.length_cons] at taken
      omega
    rcases whole row (List.mem_of_mem_take member) with ahead | ended
    · have started := (position_sorted (shape ▸ sorted)).1
      rw [← shape] at started
      omega
    · exact ended
  have later : ∀ row ∈ arranged.drop position, ¬upTo key arranged row ≤ position := by
    intro row member
    obtain ⟨front, back, cut⟩ := List.append_of_mem member
    have shape : arranged = (arranged.take position ++ front) ++ row :: back := by
      rw [List.append_assoc, ← cut, split]
    have outside : position ≤ (arranged.take position ++ front).length := by
      have beyond := List.length_pos_of_mem member
      rw [List.length_drop] at beyond
      rw [List.length_append, List.length_take]
      omega
    have started := (position_sorted (shape ▸ sorted)).2
    rw [← shape] at started
    omega
  conv_rhs => rw [← split, List.filter_append]
  rw [List.filter_eq_self.mpr ?_, List.filter_eq_nil_iff.mpr ?_, List.append_nil]
  · exact fun row member => by simpa [split] using later row member
  · exact fun row member => by simpa [split] using first row member

/-- A sorted arrangement of the rows. -/
structure Arrangement (key : Row → Key) (rows arranged : List Row) : Prop where
  perm : arranged.Perm rows
  sorted : arranged.Pairwise fun a b => key a ≤ key b

theorem arrangement_orderBy (key : Row → Key) (rows : List Row) (pick : ℕ) :
    Arrangement key rows (orderBy key rows pick) :=
  ⟨orderBy_perm key rows pick, orderBy_sorted key rows pick⟩

namespace Arrangement

variable {other : List Row}

theorem take_perm (first : Arrangement key rows arranged) (second : Arrangement key rows other) {position : ℕ}
    (whole : Whole key rows position) : (arranged.take position).Perm (other.take position) := by
  have same : ∀ row, upTo key arranged row = upTo key other row := fun row =>
    (first.perm.trans second.perm.symm).countP_eq _
  rw [take_eq_filter first.sorted ((whole_perm first.perm).mpr whole),
    take_eq_filter second.sorted ((whole_perm second.perm).mpr whole)]
  simp only [same]
  exact (first.perm.trans second.perm.symm).filter _

/-- A page between two uncut positions has the same rows in every arrangement. -/
theorem page_perm (first : Arrangement key rows arranged) (second : Arrangement key rows other) {offset limit : ℕ}
    (start : Whole key rows offset) (stop : Whole key rows (offset + limit)) :
    ((arranged.drop offset).take limit).Perm ((other.drop offset).take limit) := by
  have stopped := first.take_perm second stop
  rw [List.take_add, List.take_add] at stopped
  have swapped := ((first.take_perm second start).symm.append_right _).trans stopped
  exact (List.perm_append_left_iff _).mp swapped

end Arrangement

/-! ## Pages put together -/

theorem browse_append (order : ℕ → List Row) (limit pages more offset : ℕ) :
    browse order limit (pages + more) offset =
      browse order limit pages offset ++ browse order limit more (offset + pages * limit) := by
  induction pages generalizing offset with
  | zero => simp [browse]
  | succ pages ih =>
      have next : offset + limit + pages * limit = offset + (pages + 1) * limit := by
        rw [Nat.succ_mul]
        omega
      rw [Nat.succ_add, browse, ih, browse, List.append_assoc, next]

/-- Pages of one arrangement are a stretch of it. -/
theorem browse_const {order : ℕ → List Row} {limit pages offset : ℕ}
    (same : ∀ page < pages, order (offset + page * limit) = arranged) :
    browse order limit pages offset = (arranged.drop offset).take (pages * limit) := by
  induction pages generalizing offset with
  | zero => simp [browse]
  | succ pages ih =>
      have first : order offset = arranged := by simpa using same 0 (Nat.succ_pos _)
      have later : ∀ page < pages, order (offset + limit + page * limit) = arranged := by
        intro page inside
        have moved : offset + limit + page * limit = offset + (page + 1) * limit := by
          rw [Nat.succ_mul]
          omega
        rw [moved]
        exact same (page + 1) (Nat.succ_lt_succ inside)
      rw [browse, ih later, first, ← List.drop_drop, ← List.take_add, Nat.succ_mul, Nat.add_comm limit]

/-- Without a cut group the pages are what is left of any arrangement, in order. -/
theorem browse_arranged {order : ℕ → List Row} (orders : ∀ offset, Arrangement key rows (order offset))
    (reference : Arrangement key rows arranged) {limit pages first : ℕ}
    (whole : ∀ page, Whole key rows (page * limit)) (enough : rows.length ≤ (first + pages) * limit) :
    (browse order limit pages (first * limit)).Perm (arranged.drop (first * limit)) ∧
      (browse order limit pages (first * limit)).Pairwise fun a b => key a ≤ key b := by
  induction pages generalizing first with
  | zero =>
      have past : arranged.length ≤ first * limit := reference.perm.length_eq ▸ enough
      rw [browse, List.drop_of_length_le past]
      exact ⟨.refl _, .nil⟩
  | succ pages ih =>
      have next : first * limit + limit = (first + 1) * limit := (Nat.succ_mul _ _).symm
      have more : rows.length ≤ (first + 1 + pages) * limit := by
        rwa [Nat.add_right_comm, Nat.add_assoc]
      obtain ⟨perm, sorted⟩ := ih more
      have page := (orders (first * limit)).page_perm reference (whole first) (next ▸ whole (first + 1))
      have cut : arranged.drop (first * limit) =
          (arranged.drop (first * limit)).take limit ++ arranged.drop ((first + 1) * limit) := by
        rw [← next, ← List.drop_drop, List.take_append_drop]
      rw [browse, next]
      constructor
      · exact (page.append perm).trans (.of_eq cut.symm)
      · have ordered := reference.sorted.sublist (List.drop_sublist (first * limit) arranged)
        rw [cut] at ordered
        refine List.pairwise_append.mpr ⟨?_, sorted, ?_⟩
        · exact ((orders _).sorted.sublist (List.drop_sublist _ _)).sublist (List.take_sublist _ _)
        · intro a early b late
          exact (List.pairwise_append.mp ordered).2.2 a (page.mem_iff.mp early) b (perm.mem_iff.mp late)

/-- The whole table. -/
theorem browse_all {order : ℕ → List Row} (orders : ∀ offset, Arrangement key rows (order offset)) {limit pages : ℕ}
    (whole : ∀ page, Whole key rows (page * limit)) (enough : rows.length ≤ pages * limit) :
    (browse order limit pages 0).Perm rows ∧ (browse order limit pages 0).Pairwise fun a b => key a ≤ key b := by
  have reference := orders 0
  obtain ⟨perm, sorted⟩ := browse_arranged orders reference whole (enough.trans_eq (by rw [Nat.zero_add]))
  rw [Nat.zero_mul] at perm sorted
  exact ⟨perm.trans reference.perm, sorted⟩

/-! ## A group that is cut -/

/-- Keys that are apart on both sides of a position are not cut by it. -/
theorem whole_between {front back : List Row} (apart : ∀ a ∈ front, ∀ b ∈ back, key a < key b) :
    Whole key (front ++ back) front.length := by
  intro row member
  rw [before_append, upTo_append]
  rcases List.mem_append.mp member with early | late
  · right
    rw [upTo_eq_zero (apart row early), Nat.add_zero]
    exact List.countP_le_length
  · left
    rw [before_eq_length fun other found => apart other found row late]
    exact Nat.le_add_right ..

/-- On both sides of a cut stand rows of one key. -/
theorem exists_cut (arrangement : Arrangement key rows arranged) {position : ℕ} (cut : ¬Whole key rows position) :
    ∃ front x y back, arranged = front ++ x :: y :: back ∧ front.length + 1 = position ∧ key x = key y := by
  rw [← whole_perm arrangement.perm] at cut
  obtain ⟨last, rfl, inside⟩ : ∃ last, position = last + 1 ∧ last + 1 < arranged.length := by
    rw [Whole] at cut
    simp only [not_forall, not_or, not_le] at cut
    obtain ⟨row, -, started, ended⟩ := cut
    have inside : position < arranged.length := ended.trans_le List.countP_le_length
    obtain ⟨last, rfl⟩ : ∃ last, position = last + 1 := Nat.exists_eq_succ_of_ne_zero (by omega)
    exact ⟨last, rfl, inside⟩
  have shape : arranged = arranged.take last ++ arranged[last] :: arranged[last + 1] :: arranged.drop (last + 2) := by
    rw [List.getElem_cons_drop, List.getElem_cons_drop, List.take_append_drop]
  have length : (arranged.take last).length = last := by
    rw [List.length_take]
    omega
  generalize arranged.take last = front at shape length
  generalize arranged[last] = x at shape
  generalize arranged[last + 1] = y at shape
  generalize arranged.drop (last + 2) = back at shape
  subst shape
  refine ⟨front, x, y, back, rfl, congrArg (· + 1) length, ?_⟩
  obtain ⟨-, sorted, ordered⟩ := List.pairwise_append.mp arrangement.sorted
  obtain ⟨below, sorted⟩ := List.pairwise_cons.mp sorted
  refine (below y List.mem_cons_self).antisymm ?_
  by_contra less
  apply cut
  rw [List.append_cons, ← length, ← List.length_singleton (a := x), ← List.length_append]
  apply whole_between
  have low : ∀ a ∈ front ++ [x], key a ≤ key x := by
    intro a early
    rcases List.mem_append.mp early with early | same
    · exact ordered a early x List.mem_cons_self
    · rw [List.mem_singleton.mp same]
  have high : ∀ b ∈ y :: back, key y ≤ key b := by
    intro b late
    rcases List.mem_cons.mp late with rfl | late
    · exact le_refl _
    · exact (List.pairwise_cons.mp sorted).1 b late
  exact fun a early b late => ((low a early).trans_lt (not_le.mp less)).trans_le (high b late)

/-- The two rows at a cut may change places. -/
theorem Arrangement.swap {front back : List Row} (arrangement : Arrangement key rows (front ++ x :: y :: back))
    (same : key x = key y) : Arrangement key rows (front ++ y :: x :: back) :=
  ⟨((List.Perm.swap x y back).append_left front).trans arrangement.perm, sorted_swap arrangement.sorted same⟩

/-- If a page boundary cuts a group, some row may come on two pages. -/
theorem exists_repeat {limit page : ℕ} (cut : ¬Whole key rows (page * limit)) :
    ∃ picks : ℕ → ℕ, ∀ pages, rows.length ≤ pages * limit →
      ¬(browse (fun offset => orderBy key rows (picks offset)) limit pages 0).Nodup := by
  have first := arrangement_orderBy key rows 0
  obtain ⟨front, x, y, back, shape, position, same⟩ := exists_cut first cut
  rw [shape] at first
  have second := first.swap same
  obtain ⟨pick, found⟩ := exists_orderBy second.perm second.sorted
  refine ⟨fun offset => if offset < page * limit then 0 else pick, fun pages enough nodup => ?_⟩
  have beyond : page ≤ pages := by
    by_contra early
    have short : pages * limit ≤ page * limit := Nat.mul_le_mul_right limit (by omega)
    have length := first.perm.length_eq
    simp only [List.length_append, List.length_cons] at length
    omega
  obtain ⟨more, rfl⟩ := Nat.exists_eq_add_of_le beyond
  have positive : 0 < page * limit := by omega
  have earlier : ∀ turn < page, orderBy key rows (if 0 + turn * limit < page * limit then 0 else pick) =
      front ++ x :: y :: back := by
    intro turn inside
    rw [Nat.zero_add, if_pos (Nat.mul_lt_mul_of_pos_right inside (Nat.pos_of_mul_pos_left positive)), shape]
  have later : ∀ turn < more, orderBy key rows (if page * limit + turn * limit < page * limit then 0 else pick) =
      front ++ y :: x :: back := by
    intro turn _
    rw [if_neg (Nat.not_lt.mpr (Nat.le_add_right ..)), found]
  have left : 0 < more * limit := by
    have length := first.perm.length_eq
    simp only [List.length_append, List.length_cons] at length
    rw [Nat.add_mul] at enough
    omega
  rw [browse_append, Nat.zero_add, browse_const earlier, browse_const later, List.drop_zero] at nodup
  have early : x ∈ (front ++ x :: y :: back).take (page * limit) := by
    rw [← position, List.append_cons, List.take_left' (by simp)]
    exact List.mem_append_right _ (List.mem_singleton_self x)
  have late : x ∈ ((front ++ y :: x :: back).drop (page * limit)).take (more * limit) := by
    obtain ⟨count, counted⟩ := Nat.exists_eq_succ_of_ne_zero left.ne'
    rw [← position, List.append_cons, List.drop_left' (by simp), counted, List.take_succ_cons]
    exact List.mem_cons_self
  exact (List.nodup_append.mp nodup).2.2 x early x late rfl

/-- Where no two keys are equal no group is cut. -/
theorem whole_of_distinct (distinct : (rows.map key).Nodup) (position : ℕ) : Whole key rows position := by
  have arrangement := arrangement_orderBy key rows 0
  by_contra cut
  obtain ⟨front, x, y, back, shape, -, same⟩ := exists_cut arrangement cut
  have keys := (arrangement.perm.map key).nodup_iff.mpr distinct
  rw [shape, List.map_append, List.map_cons, List.map_cons, same] at keys
  exact (List.nodup_cons.mp (List.nodup_append.mp keys).2.1).1 List.mem_cons_self

end Latest
