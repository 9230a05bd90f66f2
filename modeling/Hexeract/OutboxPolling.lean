import Hexeract.OutboxWorkers

/-! # Polls over rows that do not decode

The database cuts a poll at the batch size, and the rows that do not decode are skipped
afterwards. Nothing ever claims a skipped row, so it is at the head of the next poll too. -/
namespace OutboxPolling

open LibraryTables LibraryMachines OutboxStatements OutboxWorkers

variable {ω κ τ γ : Type} [DecidableEq κ] [LinearOrder τ]

def i64Max : ℕ := 2 ^ 63 - 1

/-- What a poll's condition selects; locked rows are passed over. -/
def Eligible (dialect : Dialect) (now : τ) (maxAttempts : ℕ) (locked : List κ)
    (row : κ × Row τ γ) : Bool :=
  row.2.isPollable now (dialect.pollBound maxAttempts) && !locked.contains row.1

/-- `OutboxStore::poll`: the batch size is bound as a 64-bit integer. -/
def pollEnvelopes (dialect : Dialect) (decodes : κ × Row τ γ → Bool) (now : τ)
    (t : Table κ (Row τ γ)) (locked : List κ) (batchSize maxAttempts : ℕ) :
    List (Envelope κ) :=
  ((poll now (dialect.pollBound maxAttempts) t locked (min batchSize i64Max)).filter
    decodes).map envelopeOf

theorem polled_pollStep [DecidableEq ω] (sys : System ω γ) (s : State ω κ τ γ) (w : ω)
    (locked : List κ) (small : (sys.config w).batchSize ≤ i64Max) :
    ((pollStep sys s w locked).workers w).polled.map envelopeOf =
      pollEnvelopes sys.dialect (fun row => sys.decodes row.2.content) s.now s.tables.main locked
        (sys.config w).batchSize (sys.config w).maxAttempts := by
  rw [pollEnvelopes, min_eq_left small]
  simp [pollStep, State.setWorker, Worker.polled]

section Heads

variable {dialect : Dialect} {decodes : κ × Row τ γ → Bool} {now : τ} {t : Table κ (Row τ γ)}
  {locked : List κ} {maxAttempts : ℕ}

def undecodableAhead (dialect : Dialect) (decodes : κ × Row τ γ → Bool) (now : τ)
    (t : Table κ (Row τ γ)) (locked : List κ) (maxAttempts : ℕ) (row : κ × Row τ γ) : ℕ :=
  t.rows.countP fun other => Eligible dialect now maxAttempts locked other &&
    !decodes other && decide (other.2.serial < row.2.serial)

theorem undecodableAhead_mono {row other : κ × Row τ γ}
    (before : other.2.serial ≤ row.2.serial) :
    undecodableAhead dialect decodes now t locked maxAttempts other ≤
      undecodableAhead dialect decodes now t locked maxAttempts row := by
  unfold undecodableAhead
  refine List.countP_mono_left fun each _ counted => ?_
  simp only [Bool.and_eq_true, decide_eq_true_eq] at counted ⊢
  exact ⟨counted.1, lt_of_lt_of_le counted.2 before⟩

/-- Among the rows that decode there is one with nothing but undecodable rows ahead. -/
theorem exists_first_decodable {row : κ × Row τ γ} (stored : row ∈ t.rows)
    (eligible : Eligible dialect now maxAttempts locked row = true)
    (decodable : decodes row = true) :
    ∃ first ∈ t.rows, Eligible dialect now maxAttempts locked first = true ∧
      decodes first = true ∧ first.2.serial ≤ row.2.serial ∧
      t.rows.countP (fun other => Eligible dialect now maxAttempts locked other &&
          decide (other.2.serial < first.2.serial)) =
        undecodableAhead dialect decodes now t locked maxAttempts first := by
  induction h : row.2.serial using Nat.strong_induction_on generalizing row with
  | _ serial ih =>
    subst h
    by_cases earlier : ∃ other ∈ t.rows, Eligible dialect now maxAttempts locked other = true ∧
        decodes other = true ∧ other.2.serial < row.2.serial
    · obtain ⟨other, stored', eligible', decodable', before⟩ := earlier
      obtain ⟨first, mem, selected, good, le, ahead⟩ :=
        ih other.2.serial before stored' eligible' decodable' rfl
      exact ⟨first, mem, selected, good, le.trans before.le, ahead⟩
    · refine ⟨row, stored, eligible, decodable, le_rfl, ?_⟩
      refine List.countP_congr fun other mem => ?_
      simp only [Bool.and_eq_true, Bool.not_eq_true', decide_eq_true_eq]
      refine ⟨fun ⟨selected, before⟩ => ⟨⟨selected, ?_⟩, before⟩, fun h => ⟨h.1.1, h.2⟩⟩
      cases good : decodes other with
      | false => rfl
      | true => exact absurd ⟨other, mem, selected, good, before⟩ earlier

theorem pollEnvelopes_ne_nil (batchSize : ℕ) :
    pollEnvelopes dialect decodes now t locked batchSize maxAttempts ≠ [] ↔
      ∃ row ∈ poll now (dialect.pollBound maxAttempts) t locked (min batchSize i64Max),
        decodes row = true := by
  rw [pollEnvelopes, ne_eq, List.map_eq_nil_iff, List.filter_eq_nil_iff]
  push Not
  rfl

theorem mem_poll_iff (distinct : (t.rows.map fun row => row.2.serial).Nodup) (limit : ℕ)
    (row : κ × Row τ γ) :
    row ∈ poll now (dialect.pollBound maxAttempts) t locked limit ↔
      row ∈ t.rows ∧ Eligible dialect now maxAttempts locked row = true ∧
        t.rows.countP (fun other => Eligible dialect now maxAttempts locked other &&
          decide (other.2.serial < row.2.serial)) < limit :=
  @mem_select_iff κ (Row τ γ) _ _ t _ (fun row => row.2.serial) distinct _ row

theorem returned_of_few_ahead (distinct : (t.rows.map fun row => row.2.serial).Nodup)
    {batchSize : ℕ} {row : κ × Row τ γ} (stored : row ∈ t.rows)
    (eligible : Eligible dialect now maxAttempts locked row = true)
    (decodable : decodes row = true)
    (few : undecodableAhead dialect decodes now t locked maxAttempts row < min batchSize i64Max) :
    pollEnvelopes dialect decodes now t locked batchSize maxAttempts ≠ [] := by
  obtain ⟨first, mem, selected, good, le, ahead⟩ :=
    exists_first_decodable stored eligible decodable
  refine (pollEnvelopes_ne_nil batchSize).mpr
    ⟨first, (mem_poll_iff distinct _ first).mpr ⟨mem, selected, ?_⟩, good⟩
  rw [ahead]
  exact lt_of_le_of_lt (undecodableAhead_mono le) few

/-- Fewer undecodable rows than the batch has places never hide a row that decodes. -/
theorem poll_returns_of_few_undecodable (distinct : (t.rows.map fun row => row.2.serial).Nodup)
    {batchSize : ℕ}
    (few : t.rows.countP (fun row => Eligible dialect now maxAttempts locked row && !decodes row) <
      min batchSize i64Max) :
    (∃ row ∈ t.rows, Eligible dialect now maxAttempts locked row = true ∧ decodes row = true) →
      pollEnvelopes dialect decodes now t locked batchSize maxAttempts ≠ [] := by
  rintro ⟨row, stored, eligible, decodable⟩
  refine returned_of_few_ahead distinct stored eligible decodable (lt_of_le_of_lt ?_ few)
  refine List.countP_mono_left fun other _ counted => ?_
  rw [Bool.and_eq_true] at counted
  exact counted.1

end Heads

/-- A poll returns an envelope exactly if some eligible row decodes and has fewer
undecodable eligible rows ahead of it than the batch has places. -/
theorem poll_returns_iff (dialect : Dialect) (decodes : κ × Row τ γ → Bool) (now : τ)
    (t : Table κ (Row τ γ)) (distinct : (t.rows.map fun row => row.2.serial).Nodup)
    (locked : List κ) (batchSize maxAttempts : ℕ) :
    pollEnvelopes dialect decodes now t locked batchSize maxAttempts ≠ [] ↔
      ∃ row ∈ t.rows, Eligible dialect now maxAttempts locked row = true ∧ decodes row = true ∧
        undecodableAhead dialect decodes now t locked maxAttempts row < min batchSize i64Max := by
  constructor
  · intro returned
    obtain ⟨row, mem, decodable⟩ := (pollEnvelopes_ne_nil batchSize).mp returned
    obtain ⟨stored, eligible, few⟩ := (mem_poll_iff distinct _ row).mp mem
    refine ⟨row, stored, eligible, decodable, lt_of_le_of_lt ?_ few⟩
    refine List.countP_mono_left fun other _ counted => ?_
    simp only [Bool.and_eq_true] at counted ⊢
    exact ⟨counted.1.1, counted.2⟩
  · rintro ⟨row, stored, eligible, decodable, few⟩
    exact returned_of_few_ahead distinct stored eligible decodable few

def poisonedTable : Table ℕ (Row ℕ Bool) :=
  ⟨[(1, .fresh 0 false), (2, .fresh 1 true)], by decide⟩

theorem poll_returns_iff_sample :
    pollEnvelopes .postgres (fun row => row.2.content) 5 poisonedTable [] 2 3 ≠ [] :=
  (poll_returns_iff .postgres (fun row => row.2.content) 5 poisonedTable (by decide) [] 2 3).mpr
    ⟨(2, .fresh 1 true), by decide, by decide, rfl, by decide⟩

/-- One undecodable row at the head, polled with a batch of one, hides the row behind it. -/
theorem undecodable_head_hides_queue :
    (∃ row ∈ poisonedTable.rows, Eligible .postgres 5 3 [] row = true ∧
      row.2.content = true) ∧
      pollEnvelopes .postgres (fun row => row.2.content) 5 poisonedTable [] 1 3 = [] := by
  decide

end OutboxPolling
