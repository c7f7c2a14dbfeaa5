import StackManifest.Proofs.RightSizing.Groups

/-!
# Right-sizing again and again

Halving rounds up: cores to whole ones, sizes to whole units, from half a unit on. An amount just
above its threshold could be rounded back to itself, and then it would be halved for ever. It is
not: every amount becomes less until it is **within its threshold**, and then it is kept. So
right-sizing that succeeds once succeeds however often it is repeated, and after finitely many times
nothing changes any more (`StackManifest.RightSizing.exists_end_of_resize`).

* `StackManifest.RightSizing.Settles` – an operation that goes down through **levels** until it
  changes nothing. The operations on fields, volumes and entries settle if those on the values in
  them do;
* `StackManifest.RightSizing.settles_cores` and `StackManifest.RightSizing.settles_size` – the
  amounts settle, since they are whole numbers once they have been halved;
* `StackManifest.RightSizing.IsWithinThresholds` – data in which no amount **exceeds its
  threshold**.
-/

namespace StackManifest.RightSizing

open StackManifest.Number

variable {v w x data data' : Value} {name other : String} {m n : Nat}
  {op op' : Value → Except Fault Value} {P Q : Value → Prop}

/-! ### Operations that are repeated -/

/-- An operation made **several times**. -/
def times (op : Value → Except Fault Value) : Nat → Value → Except Fault Value
  | 0, v => .ok v
  | n + 1, v => op v >>= times op n

theorem times_of_fixed (h : op v = .ok v) (n : Nat) : times op n v = .ok v := by
  induction n with
  | zero => rfl
  | succ n ih => rw [times, h, ok_bind, ih]

/-- An operation **settles** through levels: it goes down from each level to the next, and at the
last one it changes nothing. A value that it succeeds on is at one of the levels. -/
structure Settles (op : Value → Except Fault Value) (level : Nat → Value → Prop) : Prop where
  stop : ∀ {v}, level 0 v → op v = .ok v
  step : ∀ {n v}, level (n + 1) v → ∃ w, op v = .ok w ∧ level n w
  mono : ∀ {n v}, level n v → level (n + 1) v
  start : ∀ {v w}, op v = .ok w → ∃ n, level n v

namespace Settles

variable {level level' : Nat → Value → Prop}

theorem mono_le (h : Settles op level) (hmn : m ≤ n) (hv : level m v) : level n v := by
  induction hmn with
  | refl => exact hv
  | step _ ih => exact h.mono ih

/-- **From some time on nothing changes.** -/
theorem exists_end (h : Settles op level) (hv : level n v) :
    ∃ x, op x = .ok x ∧ level 0 x ∧ ∀ k, n ≤ k → times op k v = .ok x := by
  induction n generalizing v with
  | zero => exact ⟨v, h.stop hv, hv, fun k _ => times_of_fixed (h.stop hv) k⟩
  | succ n ih =>
    obtain ⟨w, hw, hlevel⟩ := h.step hv
    obtain ⟨x, hx, hstop, htimes⟩ := ih hlevel
    refine ⟨x, hx, hstop, fun k hk => ?_⟩
    obtain ⟨k, rfl⟩ := Nat.exists_eq_add_of_le' (Nat.le_of_add_left_le hk)
    rw [times, hw, ok_bind]
    exact htimes k (by omega)

/-- The operation **succeeds** however often it is made. -/
theorem exists_times (h : Settles op level) (hv : level n v) (k : Nat) :
    ∃ x, times op k v = .ok x := by
  induction k generalizing n v with
  | zero => exact ⟨v, rfl⟩
  | succ k ih =>
    -- a step leads down, so the value is taken to be one level higher
    obtain ⟨w, hw, hlevel⟩ := h.step (h.mono hv)
    obtain ⟨x, hx⟩ := ih hlevel
    exact ⟨x, by rw [times, hw, ok_bind, hx]⟩

end Settles

/-! ### Operations in a value -/

section Parts

variable {level level' : Nat → Value → Prop}

theorem atField_of_position? (h : ∀ l es, v = .map l es → Entries.Lacks es name) :
    AtField name P v := by
  rintro l es c rfl hc
  rw [Entries.get?_of_lacks (h l es rfl)] at hc
  cases hc

theorem atField_iff_of_split {l : Label} {before after : Entries} {c : Value}
    (h : Entries.Lacks before name) :
    AtField name P (.map l (before ++ (.text name, c) :: after)) ↔ P c := by
  have hget : Entries.get? (before ++ (.text name, c) :: after) name = some c :=
    (Entries.differ_of_lacks (w := c) h).get?.1
  constructor
  · exact fun hv => hv l _ c rfl hget
  · rintro hc - - d ⟨⟩ hd
    obtain rfl := Option.some.inj (hget.symm.trans hd)
    exact hc

theorem atField_mono (h : ∀ c, P c → Q c) (hv : AtField name P v) : AtField name Q v :=
  fun l es c hmap hc => h c (hv l es c hmap hc)

/-- An operation on the value **under a name** settles if the one on the value does. -/
theorem Settles.inField (h : Settles op level) (name : String) :
    Settles (inField name op) fun n => AtField name (level n) where
  stop := by
    intro v hv
    rcases position?_cases v name with ⟨hnone, -⟩ | ⟨l, before, c, after, rfl, hlacks⟩
    · exact inField_of_position? hnone
    · rw [atField_iff_of_split hlacks] at hv
      rw [inField_of_split hlacks, h.stop hv]
      rfl
  step := by
    intro n v hv
    rcases position?_cases v name with ⟨hnone, habsent⟩ | ⟨l, before, c, after, rfl, hlacks⟩
    · exact ⟨v, inField_of_position? hnone, atField_of_position? habsent⟩
    · rw [atField_iff_of_split hlacks] at hv
      obtain ⟨w, hw, hlevel⟩ := h.step hv
      refine ⟨.map l (before ++ (.text name, w) :: after), ?_, (atField_iff_of_split hlacks).mpr
        hlevel⟩
      rw [inField_of_split hlacks, hw]
      rfl
  mono := fun hv => atField_mono (fun _ => h.mono) hv
  start := by
    intro v w hw
    rcases position?_cases v name with ⟨-, habsent⟩ | ⟨l, before, c, after, rfl, hlacks⟩
    · exact ⟨0, atField_of_position? habsent⟩
    · rw [inField_of_split hlacks] at hw
      obtain ⟨y, hy, -⟩ := map_eq_ok_iff.mp hw
      obtain ⟨n, hn⟩ := h.start hy
      exact ⟨n, (atField_iff_of_split hlacks).mpr hn⟩

/-- Under any **other name** the same can be said after a change as before. -/
theorem atField_iff_of_inField (h : inField name op v = .ok w) (hne : other ≠ name) :
    AtField other P w ↔ AtField other P v :=
  (inField_of_ok h).atField_iff_of_ne hne

/-- Something that is said of the **first element** of a list, or of another value itself. -/
def AtVolume (P : Value → Prop) : Value → Prop
  | .list _ (x :: _) => P x
  | v => P v

/-- A value that is no list with elements: it is **its own volume**. -/
def IsOwnVolume (v : Value) : Prop := ∀ l y ys, v ≠ .list l (y :: ys)

theorem isOwnVolume_or_exists (v : Value) : IsOwnVolume v ∨ ∃ l y ys, v = .list l (y :: ys) := by
  refine or_iff_not_imp_right.mpr fun h l y ys hv => h ⟨l, y, ys, hv⟩

theorem IsOwnVolume.inVolume_eq (h : IsOwnVolume v) : inVolume op v = op v := inVolume_of_ne h

theorem IsOwnVolume.atVolume_iff (h : IsOwnVolume v) : AtVolume P v ↔ P v := by
  rw [AtVolume.eq_def]
  split
  · exact absurd rfl (h _ _ _)
  · exact Iff.rfl

/-- A change under a name **makes no list**. -/
theorem IsOwnVolume.of_inField (h : IsOwnVolume v) (hw : inField name op v = .ok w) :
    IsOwnVolume w := by
  cases inField_of_ok hw with
  | absent => exact h
  | present => exact fun l y ys => by simp

theorem atVolume_mono (h : ∀ c, P c → Q c) (hv : AtVolume P v) : AtVolume Q v := by
  rcases isOwnVolume_or_exists v with hown | ⟨l, y, ys, rfl⟩
  · exact hown.atVolume_iff.mpr (h v (hown.atVolume_iff.mp hv))
  · exact h y hv

/-- An operation on the **first volume** settles if the one on the value there does, and makes no
list of another value. -/
theorem Settles.inVolume (h : Settles op level)
    (hown : ∀ {v w}, op v = .ok w → IsOwnVolume v → IsOwnVolume w) :
    Settles (inVolume op) fun n => AtVolume (level n) where
  stop := by
    intro v hv
    rcases isOwnVolume_or_exists v with hv' | ⟨l, y, ys, rfl⟩
    · rw [hv'.inVolume_eq]
      exact h.stop (hv'.atVolume_iff.mp hv)
    · rw [RightSizing.inVolume, h.stop hv]
      rfl
  step := by
    intro n v hv
    rcases isOwnVolume_or_exists v with hv' | ⟨l, y, ys, rfl⟩
    · obtain ⟨w, hw, hlevel⟩ := h.step (hv'.atVolume_iff.mp hv)
      exact ⟨w, hv'.inVolume_eq.trans hw, (hown hw hv').atVolume_iff.mpr hlevel⟩
    · obtain ⟨w, hw, hlevel⟩ := h.step hv
      exact ⟨.list l (w :: ys), by rw [RightSizing.inVolume, hw]; rfl, hlevel⟩
  mono := fun hv => atVolume_mono (fun _ => h.mono) hv
  start := by
    intro v w hw
    rcases isOwnVolume_or_exists v with hv' | ⟨l, y, ys, rfl⟩
    · obtain ⟨n, hn⟩ := h.start (hv'.inVolume_eq.symm.trans hw)
      exact ⟨n, hv'.atVolume_iff.mpr hn⟩
    · obtain ⟨z, hz, -⟩ := map_eq_ok_iff.mp hw
      exact h.start hz

/-- **Several entries** are at one level. -/
theorem Settles.exists_level (h : Settles op level) {es : Entries}
    (hes : ∀ e ∈ es, ∃ n, level n e.2) : ∃ n, ∀ e ∈ es, level n e.2 := by
  induction es with
  | nil => exact ⟨0, List.forall_mem_nil _⟩
  | cons e es ih =>
    obtain ⟨⟨m, hm⟩, hes⟩ := List.forall_mem_cons.mp hes
    obtain ⟨n, hn⟩ := ih hes
    -- a level holds what the lower ones hold, so the higher of the two will do
    refine ⟨max m n, List.forall_mem_cons.mpr ⟨h.mono_le (le_max_left m n) hm, fun e he => ?_⟩⟩
    exact h.mono_le (le_max_right m n) (hn e he)

/-- An operation on the value of **every entry** settles if the one on a value does. -/
theorem Settles.inEntries (h : Settles op level) :
    Settles (inEntries op) fun n => InSection fun _ => level n where
  stop := by
    intro v hv
    cases v with
    | map l es =>
      have hsame : (es.mapM fun e => (op e.2).map (Prod.mk e.1)) = .ok es := by
        refine mapM_eq_ok_iff.mpr (List.forall₂_same.mpr fun e he => ?_)
        rw [h.stop (hv l es rfl e he)]
        rfl
      rw [RightSizing.inEntries, hsame]
      rfl
    | _ => rfl
  step := by
    intro n v hv
    cases v with
    | map l es =>
      have hall : ∀ e ∈ es, ∃ e', (op e.2).map (Prod.mk e.1) = .ok e' ∧ level n e'.2 := by
        intro e he
        obtain ⟨w, hw, hlevel⟩ := h.step (hv l es rfl e he)
        exact ⟨(e.1, w), by rw [hw]; rfl, hlevel⟩
      obtain ⟨es', hes', hlevel⟩ := exists_mapM_forall_iff.mpr hall
      refine ⟨.map l es', by rw [RightSizing.inEntries, hes']; rfl, ?_⟩
      rintro - es'' ⟨⟩
      exact hlevel
    | _ => exact ⟨_, rfl, by rintro - - ⟨⟩⟩
  mono := fun hv l es hmap e he => h.mono (hv l es hmap e he)
  start := by
    intro v w hw
    cases v with
    | map l es =>
      obtain ⟨es', hes', -⟩ := map_eq_ok_iff.mp hw
      have hall := exists_mapM_iff.mp ⟨es', hes'⟩
      obtain ⟨n, hn⟩ := h.exists_level fun e he => by
        obtain ⟨y, hy⟩ := hall e he
        obtain ⟨z, hz, -⟩ := map_eq_ok_iff.mp hy
        exact h.start hz
      refine ⟨n, ?_⟩
      rintro - es'' ⟨⟩
      exact hn
    | _ => exact ⟨0, by rintro - - ⟨⟩⟩

/-- **One operation after the other** settles if both do, and neither touches the levels of the
other one. -/
theorem Settles.andThen (h : Settles op level) (h' : Settles op' level')
    (hlater : ∀ {n v w}, op v = .ok w → (level' n w ↔ level' n v))
    (hfirst : ∀ {n v w}, op' v = .ok w → (level n w ↔ level n v)) :
    Settles (fun v => op v >>= op') fun n v => level n v ∧ level' n v where
  stop := by
    rintro v ⟨hv, hv'⟩
    rw [h.stop hv, ok_bind, h'.stop hv']
  step := by
    rintro n v ⟨hv, hv'⟩
    obtain ⟨w, hw, hlevel⟩ := h.step hv
    obtain ⟨x, hx, hlevel'⟩ := h'.step ((hlater hw).mpr hv')
    exact ⟨x, by rw [hw, ok_bind, hx], (hfirst hx).mpr hlevel, hlevel'⟩
  mono := fun hv => ⟨h.mono hv.1, h'.mono hv.2⟩
  start := by
    intro v x hx
    obtain ⟨w, hw, hx⟩ := bind_eq_ok_iff.mp hx
    obtain ⟨m, hm⟩ := h.start hw
    obtain ⟨n, hn⟩ := h'.start hx
    exact ⟨max m n, h.mono_le (le_max_left m n) hm,
      h'.mono_le (le_max_right m n) ((hlater hw).mp hn)⟩

/-- An operation that is made only if **something can be read** settles if it leaves that so. -/
theorem Settles.guarded {α : Type} (h : Settles op level) (check : Value → Except Fault α)
    (hcheck : ∀ {v w a}, op v = .ok w → check v = .ok a → ∃ b, check w = .ok b) :
    Settles (fun v => do discard (check v); op v)
      fun n v => (∃ a, check v = .ok a) ∧ level n v where
  stop := by
    rintro v ⟨⟨a, ha⟩, hv⟩
    rw [ha]
    exact h.stop hv
  step := by
    rintro n v ⟨⟨a, ha⟩, hv⟩
    obtain ⟨w, hw, hlevel⟩ := h.step hv
    exact ⟨w, by rw [ha]; exact hw, hcheck hw ha, hlevel⟩
  mono := fun hv => ⟨hv.1, h.mono hv.2⟩
  start := by
    intro v w hw
    rw [discard_bind] at hw
    obtain ⟨a, ha, hw⟩ := bind_eq_ok_iff.mp hw
    obtain ⟨n, hn⟩ := h.start hw
    exact ⟨n, ⟨a, ha⟩, hn⟩

end Parts

/-! ### Amounts -/

/-- An operation that changes nothing any more **after some steps**, where something can be said of
what is left then. -/
def SettlesIn (op : Value → Except Fault Value) (P : Value → Prop) : Nat → Value → Prop
  | 0, v => op v = .ok v ∧ P v
  | n + 1, v => ∃ w, op v = .ok w ∧ SettlesIn op P n w

theorem SettlesIn.succ (h : SettlesIn op P n v) : SettlesIn op P (n + 1) v := by
  induction n generalizing v with
  | zero => exact ⟨v, h.1, h⟩
  | succ n ih =>
    obtain ⟨w, hw, h⟩ := h
    exact ⟨w, hw, ih h⟩

section Amounts

variable {half : Value → Except Fault (Option Value)} {t : Nat}

/-- **Halving an amount settles** if halved amounts have a size that becomes less by each halving,
and every amount that has a size can be halved or is kept. -/
theorem settles_amount {size : Nat → Value → Prop}
    (hkept : ∀ {v}, half v = .ok none → P v)
    (hhalved : ∀ {v w}, half v = .ok (some w) → ∃ n, size n w)
    (hless : ∀ {n v}, size n v →
      half v = .ok none ∨ ∃ w m, half v = .ok (some w) ∧ m < n ∧ size m w) :
    Settles (halvedAmount half) (SettlesIn (halvedAmount half) P) where
  stop := And.left
  step := id
  mono := SettlesIn.succ
  start := by
    have hstop : ∀ {v}, half v = .ok none → ∃ n, SettlesIn (halvedAmount half) P n v :=
      fun {v} hv => ⟨0, by rw [halvedAmount, hv]; rfl, hkept hv⟩
    have hstep : ∀ {v w n}, half v = .ok (some w) → SettlesIn (halvedAmount half) P n w →
        SettlesIn (halvedAmount half) P (n + 1) v :=
      fun {v w n} hv hw => ⟨w, by rw [halvedAmount, hv]; rfl, hw⟩
    -- the induction is on the size that is left
    have hsize : ∀ n v, size n v → ∃ k, SettlesIn (halvedAmount half) P k v := by
      intro n
      induction n using Nat.strong_induction_on with
      | _ n ih =>
        intro v hv
        rcases hless hv with hnone | ⟨w, m, hw, hlt, hm⟩
        · exact hstop hnone
        · obtain ⟨k, hk⟩ := ih m hlt w hm
          exact ⟨k + 1, hstep hw hk⟩
    intro v w hw
    obtain ⟨o, ho, -⟩ := map_eq_ok_iff.mp hw
    cases o with
    | none => exact hstop ho
    | some x =>
      obtain ⟨n, hn⟩ := hhalved ho
      obtain ⟨k, hk⟩ := hsize n x hn
      exact ⟨k + 1, hstep ho hk⟩

/-- Cores **within the threshold**, or none. -/
def CoresWithin (v : Value) : Prop :=
  ∃ c, Cores.ofValue v = .ok c ∧ ∀ d, c = some d → d.toRat ≤ coreThreshold

/-- A size **within a threshold**. -/
def SizeWithin (t : Nat) (v : Value) : Prop := ∃ n, Size.ofValue v = .ok n ∧ n ≤ t

/-- A **whole number of cores**, as a number or as a text. -/
def WholeCores (n : Nat) (v : Value) : Prop :=
  n < tenTo digitLimit ∧ (v = .int n ∨ v = .text (String.ofList (Text.decimalDigits n)))

theorem WholeCores.ofValue_eq (h : WholeCores n v) :
    Cores.ofValue v = .ok (some ⟨false, n, 0⟩) := by
  obtain ⟨hn, rfl | rfl⟩ := h
  · exact (ofValue_eq_read_of_named (.int (toText_int.mpr ⟨hn, rfl⟩)) nofun).trans
      (Cores.read_text n)
  · exact (ofValue_eq_read_of_named (.text _) nofun).trans (Cores.read_text n)

/-- A whole number of cores **can be divided** by two. -/
theorem exists_div_two (hn : n < tenTo digitLimit) :
    ∃ q, Decimal.div ⟨false, n, 0⟩ 2 = .ok q := by
  have htwo : (2 : Decimal).magnitude = 2 := by
    change ((2 : ℕ) : ℚ) * 10 ^ (0 : ℤ) = 2
    norm_num
  have hwhole : Decimal.magnitude ⟨false, n, 0⟩ = n := by simp [Decimal.magnitude]
  have hiff := Decimal.exists_div_lt_iff (k := digitLimit) (a := ⟨false, n, 0⟩) (b := 2)
    (by decide) (by decide) (by decide)
  have hlt : (n : ℚ) / 2 < 10 ^ (digitLimit : ℤ) -
      10 ^ ((digitLimit : ℤ) - Decimal.precision) / 2 := by
    have hnQ : (n : ℚ) < 10 ^ (digitLimit : ℤ) := by
      rw [zpow_natCast, ← cast_tenTo]
      exact_mod_cast hn
    have hpow : (10 : ℚ) ^ ((digitLimit : ℤ) - Decimal.precision) ≤ 10 ^ (digitLimit : ℤ) :=
      zpow_le_zpow_right₀ (by norm_num) (by omega)
    linarith
  rw [htwo, hwhole] at hiff
  obtain ⟨q, hq, -⟩ := hiff.mpr hlt
  exact ⟨q, hq⟩

/-- **Whole cores** become less, or they are kept. -/
theorem WholeCores.less (h : WholeCores n v) :
    halvedCores v = .ok none ∨ ∃ w m, halvedCores v = .ok (some w) ∧ m < n ∧ WholeCores m w := by
  by_cases hgt : Decimal.compareInt ⟨false, n, 0⟩ coreThreshold = .gt
  · have hlt : ((coreThreshold : ℤ) : ℚ) < Decimal.toRat ⟨false, n, 0⟩ :=
      Decimal.compareInt_eq_gt_iff.mp hgt
    obtain ⟨q, hq⟩ := exists_div_two h.1
    obtain ⟨m, hm, hless, -⟩ := exists_ceil_div_two rfl (by exact_mod_cast hlt) hq
    have hmn : m < n := by simpa [Decimal.toRat_mk] using hless
    have hlimit := hmn.trans h.1
    right
    obtain ⟨w, hwrites, hw⟩ : ∃ w, WritesHalf m v w ∧ WholeCores m w := by
      rcases h.2 with rfl | rfl
      · exact ⟨.int m, .number (by simp), hlimit, .inl rfl⟩
      · exact ⟨_, .text (toText_int.mpr ⟨hlimit, rfl⟩), hlimit, .inr rfl⟩
    refine ⟨w, m, halvedCores_eq_some_iff.mpr ⟨_, q, h.ofValue_eq, hgt, hq, ?_⟩, hmn, hw⟩
    rwa [hm]
  · left
    refine halvedCores_eq_none_iff.mpr ⟨_, h.ofValue_eq, ?_⟩
    rintro d ⟨⟩
    exact hgt

/-- What gives a number of cores is **read as a text**. -/
theorem exists_isNamed_of_ofValue {c : Decimal} (h : Cores.ofValue v = .ok (some c)) :
    ∃ s, IsNamed v s := by
  cases v with
  | null | bool => cases h
  | text s => exact ⟨s, .text s⟩
  | bytes bs => exact ⟨"", .bytes⟩
  | int | float =>
    obtain ⟨s, hs, -⟩ := bind_eq_ok_iff.mp h
    first | exact ⟨s, .int hs⟩ | exact ⟨s, .float hs⟩
  | _ => exact absurd (Cores.isLeaf_of_ofValue h) (by simp [Value.isLeaf])

/-- **Halved cores** are a whole number. -/
theorem exists_wholeCores (h : halvedCores v = .ok (some w)) : ∃ n, WholeCores n w := by
  obtain ⟨c, q, hc, hgt, hq, hw⟩ := halvedCores_eq_some_iff.mp h
  have hlt : ((coreThreshold : ℤ) : ℚ) < c.toRat := Decimal.compareInt_eq_gt_iff.mp hgt
  have hneg := Cores.negative_of_read (Cores.ofValue_eq_read hc)
  obtain ⟨n, hn, hless, -⟩ := exists_ceil_div_two hneg (by exact_mod_cast hlt) hq
  rw [hn] at hw
  refine ⟨n, ?_⟩
  cases hw with
  | text hs =>
    obtain ⟨hlimit, rfl⟩ := toText_int.mp hs
    exact ⟨hlimit, .inr rfl⟩
  | number hne =>
    obtain ⟨s, hs⟩ := exists_isNamed_of_ofValue hc
    exact ⟨lt_digitLimit_of_ofValue hs hc hne hless, .inl rfl⟩

/-- **Cores settle** within the threshold. -/
theorem settles_cores :
    Settles (halvedAmount halvedCores) (SettlesIn (halvedAmount halvedCores) CoresWithin) := by
  refine settles_amount (fun hv => ?_) exists_wholeCores WholeCores.less
  obtain ⟨c, hc, hle⟩ := halvedCores_eq_none_iff.mp hv
  refine ⟨c, hc, fun d hd => ?_⟩
  have hnot := hle d hd
  rw [ne_eq, Decimal.compareInt_eq_gt_iff, not_lt] at hnot
  exact_mod_cast hnot

/-- A size **below the limit**, up to which halves can be written. -/
def LimitedSize (n : Nat) (v : Value) : Prop := Size.ofValue v = .ok n ∧ n < sizeLimit

/-- **A size below the limit** becomes less, or it is kept. -/
theorem LimitedSize.less (ht : memoryThreshold ≤ t) (h : LimitedSize n v) :
    halvedSize t v = .ok none ∨
      ∃ w m, halvedSize t v = .ok (some w) ∧ m < n ∧ LimitedSize m w := by
  rcases le_or_gt n t with hle | hgt
  · exact .inl (halvedSize_eq_none_iff.mpr ⟨n, h.1, hle⟩)
  · have hlimit : sizeLimit < 2 ^ 200 := by decide
    obtain ⟨half, hhalf⟩ := Binary64.exists_ofQuotient? (by omega) (h.2.trans hlimit)
    obtain ⟨s, hs⟩ := exists_format_half (ht.trans_lt hgt) h.2 hhalf
    obtain ⟨m, hm, hless, -, hmlimit⟩ := exists_bytes_format (ht.trans_lt hgt) hhalf hs
    refine .inr ⟨.text s, m, ?_, hless, hm, hmlimit⟩
    exact halvedSize_eq_some_iff.mpr ⟨n, half, s, h.1, hgt, hhalf, hs, rfl⟩

/-- **Sizes settle** within their threshold. -/
theorem settles_size (ht : memoryThreshold ≤ t) :
    Settles (halvedAmount (halvedSize t))
      (SettlesIn (halvedAmount (halvedSize t)) (SizeWithin t)) := by
  refine settles_amount halvedSize_eq_none_iff.mp (fun hw => ?_) (LimitedSize.less ht)
  obtain ⟨n, half, s, -, hlt, hhalf, hs, rfl⟩ := halvedSize_eq_some_iff.mp hw
  obtain ⟨m, hm, -, -, hlimit⟩ := exists_bytes_format (ht.trans_lt hlt) hhalf hs
  exact ⟨m, hm, hlimit⟩

end Amounts

/-! ### Profiles -/

/-- Something that is said of the **amounts** of resources. -/
def InResources (cores memory storage : Value → Prop) (r : Value) : Prop :=
  AtField "cpu" (AtField "units" cores) r ∧ AtField "memory" (AtField "size" memory) r ∧
    AtField "storage" (AtVolume (AtField "size" storage)) r

/-- Resources that **settle after some steps**. -/
def ResourcesSettle (n : Nat) : Value → Prop :=
  InResources (SettlesIn (halvedAmount halvedCores) CoresWithin n)
    (SettlesIn (halvedAmount (halvedSize memoryThreshold)) (SizeWithin memoryThreshold) n)
    (SettlesIn (halvedAmount (halvedSize storageThreshold)) (SizeWithin storageThreshold) n)

/-- **Resources settle.** -/
theorem settles_resources : Settles halvedResources ResourcesSettle := by
  have hmemory := ((settles_size (t := memoryThreshold) le_rfl).inField "size").inField "memory"
  have hstorage := (((settles_size (t := storageThreshold) (by decide)).inField "size").inVolume
    fun hw hv => hv.of_inField hw).inField "storage"
  have hrest := hmemory.andThen hstorage (fun hw => atField_iff_of_inField hw (by decide))
    fun hw => atField_iff_of_inField hw (by decide)
  refine ((settles_cores.inField "units").inField "cpu").andThen hrest (fun hw => ?_) fun hw => ?_
  · exact and_congr (atField_iff_of_inField hw (by decide)) (atField_iff_of_inField hw (by decide))
  · obtain ⟨x, hx, hw⟩ := bind_eq_ok_iff.mp hw
    exact (atField_iff_of_inField hw (by decide)).trans (atField_iff_of_inField hx (by decide))

/-! ### Guards -/

section Guards

variable {D : Value → Value → Prop}

/-- A change under a name is one of the **section** that a value stands for. -/
theorem inField_orEmpty (h : InField name D v w) : InField name D v.orEmpty w.orEmpty := by
  cases h with
  | absent habsent =>
    refine .absent ?_
    rw [Value.orEmpty]
    split
    · exact habsent
    · rintro - - ⟨⟩
      exact List.forall_mem_nil _
  | present hdiffer hcw =>
    cases hdiffer with
    | here => exact .present .here hcw
    | there he hrest => exact .present (.there he hrest) hcw

/-- What is asked for **under the name** is the changed value, or it is as before. -/
theorem exists_field_of_inField {c : Value} (h : InField name D v w) (hc : v.field name = .ok c) :
    ∃ c', w.field name = .ok c' ∧ (c' = c ∨ D c c') := by
  cases h with
  | absent => exact ⟨c, hc, .inl rfl⟩
  | @present _ es es' y z hdiffer hyz =>
    have hfield : ∀ {l' : Label} {fs : Entries} {u : Value}, Entries.get? fs name = some u →
        Value.field (.map l' fs) name = .ok u := by
      intro l' fs u hu
      rw [Value.field, Value.fieldOr, Value.field?, ok_bind, hu]
      rfl
    rw [hfield hdiffer.get?.1] at hc
    obtain rfl := Except.ok.inj hc
    exact ⟨z, hfield hdiffer.get?.2, .inr hyz⟩

/-- A changed value can be **asked for names** if it could before. -/
theorem exists_field?_of_inField {o : Option Value} (h : InField name D v w)
    (ho : v.field? other = .ok o) : ∃ o', w.field? other = .ok o' := by
  cases h with
  | absent => exact ⟨o, ho⟩
  | present => exact ⟨_, rfl⟩

/-- A section whose entries are changed **has entries**, if it had some before. -/
theorem exists_entriesBy_of_inEntries {member : String} {es : Entries}
    (hw : inEntries op v = .ok w) (hes : v.orEmpty.entriesBy member = .ok es) :
    ∃ es', w.orEmpty.entriesBy member = .ok es' := by
  cases v with
  | map l xs =>
    obtain ⟨ys, -, rfl⟩ := map_eq_ok_iff.mp hw
    exact ⟨ys, entriesBy_orEmpty l ys member⟩
  | _ =>
    cases hw
    exact ⟨es, hes⟩

end Guards

/-! ### Data -/

/-- A profile that **settles after some steps**. -/
def ProfileSettles (n : Nat) (v : Value) : Prop :=
  (∃ o, v.orEmpty.field? "resources" = .ok o) ∧ AtField "resources" (ResourcesSettle n) v

/-- **A profile settles.** -/
theorem settles_profile : Settles halvedProfile ProfileSettles :=
  (settles_resources.inField "resources").guarded (fun v => v.orEmpty.field? "resources")
    fun hw ho => exists_field?_of_inField (inField_orEmpty (inField_of_ok hw)) ho

/-- The entries of the **compute section** of some data. -/
def computeEntries (data : Value) : Except Fault Entries := do
  (← data.field "profiles").orEmpty.sectionEntries "compute" "values"

/-- Data that **settles after some steps**. -/
def DataSettles (n : Nat) (v : Value) : Prop :=
  (∃ es, computeEntries v = .ok es) ∧
    AtField "profiles" (AtField "compute" (InSection fun _ => ProfileSettles n)) v

theorem halved_eq (data : Value) :
    halved data = (do
      discard (computeEntries data)
      inField "profiles" (inField "compute" (inEntries halvedProfile)) data) := by
  rw [halved, computeEntries]
  cases data.field "profiles" <;> rfl

/-- **Data settles.** -/
theorem settles_halved : Settles halved DataSettles := by
  rw [show halved = _ from funext halved_eq]
  refine ((settles_profile.inEntries.inField "compute").inField "profiles").guarded computeEntries
    fun hw hes => ?_
  -- the changed data can be asked for the same entries: first the profiles, then their section
  obtain ⟨p, hp, hes⟩ := bind_eq_ok_iff.mp hes
  obtain ⟨p', hp', rfl | hpp⟩ := exists_field_of_inField (inField_of_ok hw) hp
  · exact ⟨_, bind_eq_ok_iff.mpr ⟨p', hp', hes⟩⟩
  · obtain ⟨c, hc, hes⟩ := bind_eq_ok_iff.mp hes
    obtain ⟨c', hc', hcc⟩ :=
      exists_field_of_inField (inField_orEmpty (inField_of_ok hpp)) hc
    obtain ⟨es', hes'⟩ : ∃ es', c'.orEmpty.entriesBy "values" = .ok es' := by
      rcases hcc with rfl | hcc
      · exact ⟨_, hes⟩
      · exact exists_entriesBy_of_inEntries hcc hes
    exact ⟨es', bind_eq_ok_iff.mpr ⟨p', hp', bind_eq_ok_iff.mpr ⟨c', hc', hes'⟩⟩⟩

/-- A change of the entries brings in **no labels** if it brings in none in their values. -/
theorem keeps_inEntries (h : ∀ {x w}, op x = .ok w → x.Keeps w) (hw : inEntries op v = .ok w) :
    v.Keeps w := by
  cases v with
  | map l es =>
    obtain ⟨es', hes', rfl⟩ := map_eq_ok_iff.mp hw
    have hrel := mapM_eq_ok_iff.mp hes'
    rintro (_ | ⟨i, a⟩) x' hx' hlabel
    · obtain rfl := Option.some.inj hx'
      exact ⟨.map l es, rfl, rfl, id⟩
    · -- the child in this place was changed by itself
      obtain ⟨y', hy', hx'⟩ := Option.bind_eq_some_iff.mp hx'
      simp only [Value.children, List.getElem?_map, Option.map_eq_some_iff] at hy'
      obtain ⟨e', he', rfl⟩ := hy'
      obtain ⟨e, he, hee⟩ : ∃ e, es[i]? = some e ∧ (op e.2).map (Prod.mk e.1) = .ok e' := by
        obtain ⟨hi', rfl⟩ := List.getElem?_eq_some_iff.mp he'
        have hi : i < es.length := hrel.length_eq ▸ hi'
        exact ⟨es[i], List.getElem?_eq_getElem hi, hrel.get hi hi'⟩
      obtain ⟨z, hz, rfl⟩ := map_eq_ok_iff.mp hee
      obtain ⟨x, hx, hxl⟩ := h hz a x' hx' hlabel
      refine ⟨x, ?_, hxl⟩
      rw [Value.at?, Value.children, List.getElem?_map, he]
      exact hx
  | _ =>
    cases hw
    exact .refl _

/-- Halving every profile brings in **no labels**. -/
theorem keeps_halved (h : halved data = .ok data') : data.Keeps data' := by
  rw [halved_eq, discard_bind] at h
  obtain ⟨-, -, h⟩ := bind_eq_ok_iff.mp h
  exact keeps_inField (keeps_inField (keeps_inEntries isLocal_resizeProfile.keeps)) h

theorem keeps_times (h : ∀ {x w}, op x = .ok w → x.Keeps w) (hw : times op n v = .ok w) :
    v.Keeps w := by
  induction n generalizing v with
  | zero =>
    obtain rfl := Except.ok.inj hw
    exact .refl v
  | succ n ih =>
    obtain ⟨x, hx, hw⟩ := bind_eq_ok_iff.mp hw
    exact (h hx).trans (ih hw)

/-- Data in which no container stands in two places is **right-sized again and again** by halving
every profile again and again. -/
theorem times_resize (hdata : data.Unshared) (n : Nat) :
    times resize n data = times halved n data := by
  induction n generalizing data with
  | zero => rfl
  | succ n ih =>
    rw [times, times, resize_eq_halved hdata]
    cases hw : halved data with
    | error e => rfl
    | ok w => exact ih (hdata.of_keeps (keeps_halved hw))

/-- Data in which **no amount exceeds its threshold**: the cores, the memory and the first volume of
every profile are within it. -/
def IsWithinThresholds : Value → Prop :=
  AtField "profiles" (AtField "compute" (InSection fun _ => AtField "resources"
    (InResources CoresWithin (SizeWithin memoryThreshold) (SizeWithin storageThreshold))))

/-- What has settled is **within the thresholds**. -/
theorem isWithinThresholds_of_dataSettles (h : DataSettles 0 data) : IsWithinThresholds data := by
  refine atField_mono (fun p hp => atField_mono (fun c hc l es hmap e he => ?_) hp) h.2
  refine atField_mono (fun r hr => ⟨?_, ?_, ?_⟩) (hc l es hmap e he).2
  · exact atField_mono (fun c hc => atField_mono (fun _ => And.right) hc) hr.1
  · exact atField_mono (fun c hc => atField_mono (fun _ => And.right) hc) hr.2.1
  · exact atField_mono (fun c hc =>
      atVolume_mono (fun _ hs => atField_mono (fun _ => And.right) hs) hc) hr.2.2

/-- **Right-sizing comes to an end.** If it succeeds on data in which no container stands in two
places, it succeeds however often it is repeated, and from some time on nothing changes any more.
Then no amount exceeds its threshold. -/
theorem exists_end_of_resize (hdata : data.Unshared) (h : resize data = .ok data') :
    (∀ n, ∃ x, times resize n data = .ok x) ∧
      ∃ N x, (∀ n, N ≤ n → times resize n data = .ok x) ∧ resize x = .ok x ∧
        IsWithinThresholds x := by
  obtain ⟨N, hN⟩ := settles_halved.start (resize_eq_halved hdata ▸ h)
  refine ⟨fun n => ?_, N, ?_⟩
  · rw [times_resize hdata]
    exact settles_halved.exists_times hN n
  · obtain ⟨x, hx, hstop, htimes⟩ := settles_halved.exists_end hN
    have hunshared : x.Unshared := hdata.of_keeps (keeps_times keeps_halved (htimes N le_rfl))
    refine ⟨x, fun n hn => ?_, ?_, isWithinThresholds_of_dataSettles hstop⟩
    · rw [times_resize hdata]
      exact htimes n hn
    · rw [resize_eq_halved hunshared]
      exact hx

/-- Nine cores become five, three and **two**; five gibibytes become three, two and **one**; twenty
become ten and **five**. -/
theorem exists_end_of_resize_nineCores :
    (∃ x, times resize 3 (oneService (.int 9) (.text "5Gi") (.text "20Gi")) = .ok x ∧
        x.eqv (oneService (.int 2) (.text "1Gi") (.text "5Gi")) = true) ∧
      (∀ n, ∃ x, times resize n (oneService (.int 9) (.text "5Gi") (.text "20Gi")) = .ok x) ∧
      ∃ N x, (∀ n, N ≤ n →
          times resize n (oneService (.int 9) (.text "5Gi") (.text "20Gi")) = .ok x) ∧
        resize x = .ok x ∧ IsWithinThresholds x := by
  have hresize : (resize (oneService (.int 9) (.text "5Gi")
      (.text "20Gi"))).toOption.isSome = true := by decide +kernel
  have htimes : ((times resize 3 (oneService (.int 9) (.text "5Gi")
      (.text "20Gi"))).toOption.map fun x =>
        x.eqv (oneService (.int 2) (.text "1Gi") (.text "5Gi"))) = some true := by decide +kernel
  obtain ⟨data', h⟩ := Option.isSome_iff_exists.mp hresize
  obtain ⟨x, hx, heqv⟩ := Option.map_eq_some_iff.mp htimes
  rw [toOption_eq_some_iff] at h hx
  have hunshared := unshared_oneService (Value.unlabelled_int 9) (Value.unlabelled_text "5Gi")
    (Value.unlabelled_text "20Gi")
  exact ⟨⟨x, hx, heqv⟩, exists_end_of_resize hunshared h⟩

end StackManifest.RightSizing
