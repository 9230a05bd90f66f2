import Hexeract.LibraryCollections

/-! # Tables with a primary key

A table pairs every key with the other columns of its row. The key has its own place in
the pair, so an update cannot change it, and no key occurs twice. Statements read one row
through `find`; each operation has one lemma that says what `find` gives after it. -/
namespace LibraryTables

open LibraryCollections

structure Table (κ ρ : Type*) where
  rows : List (κ × ρ)
  keyed : (rows.map Prod.fst).Nodup

variable {κ ρ : Type*}

def Table.empty : Table κ ρ := ⟨[], List.nodup_nil⟩

/-- The rows a condition selects, ordered by a comparator and cut at a limit. -/
def Table.select (t : Table κ ρ) (p : κ × ρ → Bool) (cmp : κ × ρ → κ × ρ → Ordering)
    (limit : ℕ) : List (κ × ρ) :=
  (sortBy cmp (t.rows.filter p)).take limit

def Table.updateWhere (t : Table κ ρ) (p : κ → ρ → Bool) (f : ρ → ρ) : Table κ ρ where
  rows := t.rows.map fun row => (row.1, if p row.1 row.2 then f row.2 else row.2)
  keyed := by
    rw [List.map_map]
    exact t.keyed

theorem updateWhere_congr {t : Table κ ρ} {p q : κ → ρ → Bool} {f : ρ → ρ}
    (same : ∀ row ∈ t.rows, p row.1 row.2 = q row.1 row.2) :
    t.updateWhere p f = t.updateWhere q f := by
  simp only [Table.updateWhere, Table.mk.injEq]
  refine List.map_congr_left fun row mem => ?_
  rw [same row mem]

theorem updateWhere_of_none {t : Table κ ρ} {p : κ → ρ → Bool} {f : ρ → ρ}
    (none : ∀ row ∈ t.rows, p row.1 row.2 = false) : t.updateWhere p f = t := by
  obtain ⟨rows, keyed⟩ := t
  simp only [Table.updateWhere, Table.mk.injEq]
  conv_rhs => rw [← List.map_id rows]
  refine List.map_congr_left fun row mem => ?_
  rw [none row mem]
  rfl

theorem filter_updateWhere {t : Table κ ρ} {q : κ → Bool} {f : ρ → ρ} :
    (t.updateWhere (fun k _ => q k) f).rows.filter (fun row => q row.1) =
      (t.rows.filter fun row => q row.1).map fun row => (row.1, f row.2) := by
  rw [Table.updateWhere, List.filter_map]
  refine List.map_congr_left fun row mem => ?_
  have kept : q row.1 = true := (List.mem_filter.mp mem).2
  rw [if_pos kept]

def Table.affected (t : Table κ ρ) (p : κ → ρ → Bool) : ℕ :=
  t.rows.countP fun row => p row.1 row.2

def Table.deleteWhere (t : Table κ ρ) (p : κ → ρ → Bool) : Table κ ρ where
  rows := t.rows.filter fun row => !p row.1 row.2
  keyed := t.keyed.sublist (List.filter_sublist.map _)

section Lookup

variable [DecidableEq κ]

def Table.find (t : Table κ ρ) (k : κ) : Option ρ :=
  (t.rows.find? fun row => decide (row.1 = k)).map Prod.snd

/-- An insertion is refused where the key is taken. -/
def Table.insert (t : Table κ ρ) (k : κ) (r : ρ) : Option (Table κ ρ) :=
  if free : k ∈ t.rows.map Prod.fst then none
  else some ⟨t.rows ++ [(k, r)], by
    rw [List.map_append]
    exact List.nodup_append'.mpr ⟨t.keyed, List.nodup_singleton k, by simpa using free⟩⟩

theorem find_of_mem {t : Table κ ρ} {k : κ} {r : ρ} (mem : (k, r) ∈ t.rows) :
    t.find k = some r := by
  obtain ⟨rows, keyed⟩ := t
  unfold Table.find
  induction rows with
  | nil => cases mem
  | cons row rest ih =>
    rw [List.map_cons, List.nodup_cons] at keyed
    rcases List.mem_cons.mp mem with rfl | mem
    · simp
    · have other : row.1 ≠ k := by
        rintro rfl
        exact keyed.1 (List.mem_map.mpr ⟨_, mem, rfl⟩)
      rw [List.find?_cons_of_neg (by simpa using other)]
      exact ih keyed.2 mem

theorem find_eq_some {t : Table κ ρ} {k : κ} {r : ρ} :
    t.find k = some r ↔ (k, r) ∈ t.rows := by
  constructor
  · intro h
    obtain ⟨⟨j, s⟩, found, rfl⟩ := Option.map_eq_some_iff.mp h
    have key : j = k := by simpa using List.find?_some found
    subst key
    exact List.mem_of_find?_eq_some found
  · exact find_of_mem

theorem find_eq_none {t : Table κ ρ} {k : κ} :
    t.find k = none ↔ k ∉ t.rows.map Prod.fst := by
  rw [← not_iff_not, not_not, ← ne_eq, Option.ne_none_iff_exists']
  simp only [find_eq_some, List.mem_map, Prod.exists, exists_and_right, exists_eq_right]

theorem mem_select {t : Table κ ρ} {p : κ × ρ → Bool} {cmp : κ × ρ → κ × ρ → Ordering}
    {limit : ℕ} {row : κ × ρ} (mem : row ∈ t.select p cmp limit) :
    t.find row.1 = some row.2 ∧ p row = true := by
  have kept := (sortBy_perm cmp _).subset (List.mem_of_mem_take mem)
  rw [List.mem_filter] at kept
  exact ⟨find_of_mem kept.1, kept.2⟩

omit [DecidableEq κ] in
/-- A row is selected exactly if it meets the condition and fewer rows than the limit that
meet it come before. -/
theorem mem_select_iff {β : Type*} [LinearOrder β] {t : Table κ ρ} {p : κ × ρ → Bool}
    {key : κ × ρ → β} (distinct : (t.rows.map key).Nodup) {limit : ℕ} {row : κ × ρ} :
    row ∈ t.select p (fun a b => compare (key a) (key b)) limit ↔
      row ∈ t.rows ∧ p row = true ∧
        t.rows.countP (fun other => p other && decide (key other < key row)) < limit := by
  have trans : Std.TransCmp fun a b : κ × ρ => compare (key a) (key b) :=
    inferInstanceAs (Std.TransCmp (compareOn key))
  have perm := sortBy_perm (fun a b => compare (key a) (key b)) (t.rows.filter p)
  have apart : (t.rows.filter p).Pairwise fun a b => key a ≠ key b :=
    (List.pairwise_map.mp distinct).sublist List.filter_sublist
  have sorted : (sortBy (fun a b => compare (key a) (key b)) (t.rows.filter p)).Pairwise
      fun a b => key a < key b := by
    have ordered := (sortBy_pairwise (fun a b => compare (key a) (key b)) (t.rows.filter p)).and
      (perm.symm.pairwise apart fun h => h.symm)
    refine ordered.imp ?_
    rintro a b ⟨le, ne⟩
    exact lt_of_le_of_ne (compare_le_iff_le.mp (Ordering.isLE_iff_ne_gt.mp le)) ne
  unfold Table.select
  by_cases mem : row ∈ t.rows.filter p
  · rw [mem_take_iff_countP sorted (perm.mem_iff.mpr mem), perm.countP_eq, List.countP_filter]
    obtain ⟨stored, matched⟩ := List.mem_filter.mp mem
    simp only [stored, matched, true_and, Bool.and_comm]
  · refine iff_of_false ?_ ?_
    · exact fun taken => mem (perm.mem_iff.mp (List.mem_of_mem_take taken))
    · exact fun ⟨stored, matched, _⟩ => mem (List.mem_filter.mpr ⟨stored, matched⟩)

omit [DecidableEq κ] in
theorem select_keys_nodup (t : Table κ ρ) (p : κ × ρ → Bool)
    (cmp : κ × ρ → κ × ρ → Ordering) (limit : ℕ) :
    ((t.select p cmp limit).map Prod.fst).Nodup := by
  have kept : ((t.rows.filter p).map Prod.fst).Nodup :=
    t.keyed.sublist (List.filter_sublist.map _)
  have sorted := ((sortBy_perm cmp (t.rows.filter p)).map Prod.fst).nodup_iff.mpr kept
  exact sorted.sublist ((List.take_sublist limit _).map _)

theorem find_updateWhere (t : Table κ ρ) (p : κ → ρ → Bool) (f : ρ → ρ) (k : κ) :
    (t.updateWhere p f).find k = (t.find k).map fun r => if p k r then f r else r := by
  cases found : t.find k with
  | none =>
    rw [Option.map_none, find_eq_none, Table.updateWhere, List.map_map]
    exact find_eq_none.mp found
  | some r =>
    rw [Option.map_some, find_eq_some]
    exact List.mem_map.mpr ⟨(k, r), find_eq_some.mp found, rfl⟩

theorem find_deleteWhere (t : Table κ ρ) (p : κ → ρ → Bool) (k : κ) :
    (t.deleteWhere p).find k = (t.find k).filter fun r => !p k r := by
  cases found : t.find k with
  | none =>
    rw [find_eq_none] at found
    rw [Option.filter_none, find_eq_none]
    exact fun mem => found ((List.filter_sublist.map _).subset mem)
  | some r =>
    by_cases h : p k r
    · rw [Option.filter_some_neg (by simp [h]), find_eq_none, List.mem_map]
      rintro ⟨⟨j, s⟩, mem, rfl⟩
      obtain ⟨mem, kept⟩ := List.mem_filter.mp mem
      rw [find_of_mem mem] at found
      cases found
      simp [h] at kept
    · rw [Option.filter_some_pos (by simpa using h), find_eq_some]
      exact List.mem_filter.mpr ⟨find_eq_some.mp found, by simpa using h⟩

theorem insert_eq_none {t : Table κ ρ} {k : κ} {r : ρ} :
    t.insert k r = none ↔ t.find k ≠ none := by
  rw [ne_eq, find_eq_none, not_not]
  unfold Table.insert
  split <;> simp_all

theorem find_insert {t u : Table κ ρ} {k : κ} {r : ρ} (h : t.insert k r = some u) (j : κ) :
    u.find j = if j = k then some r else t.find j := by
  unfold Table.insert at h
  split at h
  · cases h
  · cases h
    rename_i free
    by_cases same : j = k
    · subst same
      rw [if_pos rfl, find_eq_some]
      simp
    · rw [if_neg same, Table.find, Table.find, List.find?_append]
      have : ([(k, r)] : List (κ × ρ)).find? (fun row => decide (row.1 = j)) = none := by
        simp [Ne.symm same]
      rw [this, Option.or_none]

theorem find_insert_of_some {t u : Table κ ρ} {k j : κ} {r s : ρ} (h : t.insert k r = some u)
    (found : t.find j = some s) : u.find j = some s := by
  rw [find_insert h, if_neg]
  · exact found
  · rintro rfl
    have taken : t.find j ≠ none := Option.ne_none_iff_exists'.mpr ⟨s, found⟩
    rw [insert_eq_none.mpr taken] at h
    cases h

theorem mem_matching {t : Table κ ρ} {p : κ × ρ → Bool} {k : κ} :
    k ∈ (t.rows.filter p).map Prod.fst ↔ ∃ r, t.find k = some r ∧ p (k, r) = true := by
  simp only [List.mem_map, List.mem_filter, Prod.exists, exists_and_right, exists_eq_right,
    find_eq_some]

theorem filter_key (t : Table κ ρ) (k : κ) :
    (t.rows.filter fun row => decide (row.1 = k)) = (t.find k).toList.map fun r => (k, r) := by
  obtain ⟨rows, keyed⟩ := t
  unfold Table.find
  induction rows with
  | nil => rfl
  | cons row rest ih =>
    rw [List.map_cons, List.nodup_cons] at keyed
    by_cases same : row.1 = k
    · have others : rest.filter (fun row => decide (row.1 = k)) = [] := by
        rw [List.filter_eq_nil_iff]
        intro other mem equal
        exact keyed.1 (List.mem_map.mpr ⟨other, mem, by simpa [same] using equal⟩)
      rw [List.filter_cons_of_pos (by simpa using same), others,
        List.find?_cons_of_pos (by simpa using same), ← same]
      rfl
    · rw [List.filter_cons_of_neg (by simpa using same),
        List.find?_cons_of_neg (by simpa using same)]
      exact ih keyed.2

theorem matching_perm {σ : Type*} {t : Table κ ρ} {u : Table κ σ} {p : κ × ρ → Bool}
    {q : κ × σ → Bool}
    (same : ∀ k, (∃ r, t.find k = some r ∧ p (k, r) = true) ↔
      ∃ r, u.find k = some r ∧ q (k, r) = true) :
    ((t.rows.filter p).map Prod.fst).Perm ((u.rows.filter q).map Prod.fst) := by
  refine (List.perm_ext_iff_of_nodup ?_ ?_).mpr fun k => ?_
  · exact t.keyed.sublist (List.filter_sublist.map _)
  · exact u.keyed.sublist (List.filter_sublist.map _)
  · rw [mem_matching, mem_matching]
    exact same k

theorem countP_eq_of_matching {σ : Type*} {t : Table κ ρ} {u : Table κ σ} {p : κ × ρ → Bool}
    {q : κ × σ → Bool}
    (same : ∀ k, (∃ r, t.find k = some r ∧ p (k, r) = true) ↔
      ∃ r, u.find k = some r ∧ q (k, r) = true) :
    t.rows.countP p = u.rows.countP q := by
  have counts := (matching_perm same).length_eq
  rwa [List.length_map, List.length_map, ← List.countP_eq_length_filter,
    ← List.countP_eq_length_filter] at counts

theorem mem_select_of_room {t : Table κ ρ} {p : κ × ρ → Bool}
    {cmp : κ × ρ → κ × ρ → Ordering} {limit : ℕ} (room : t.rows.countP p ≤ limit) {k : κ} :
    k ∈ (t.select p cmp limit).map Prod.fst ↔ ∃ r, t.find k = some r ∧ p (k, r) = true := by
  have perm := sortBy_perm cmp (t.rows.filter p)
  rw [Table.select, List.take_of_length_le, (perm.map Prod.fst).mem_iff, mem_matching]
  rwa [perm.length_eq, ← List.countP_eq_length_filter]

theorem affected_pos {t : Table κ ρ} {p : κ → ρ → Bool} :
    0 < t.affected p ↔ ∃ k r, t.find k = some r ∧ p k r = true := by
  unfold Table.affected
  simp only [List.countP_pos_iff, Prod.exists, find_eq_some]

end Lookup

end LibraryTables
