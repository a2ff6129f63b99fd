import Mathlib.Logic.Function.Basic
import Mathlib.Order.Basic
/-!
# `getValidServerConfig`

`getPeerConfig` fetches `config.json` from every peer and keeps the one held by a majority:
`getValidServerConfig` groups the configs that no error came with into classes of equal configs
(`ConfigDiff` returns `""`), each counted at the lowest index where it occurs (`configCounter`),
takes a most frequent class, and returns its config when it occurs in at least `n/2 + 1` of the
`n` peers; otherwise `errXLWriteQuorum`.

`serverConfig` is kept abstract, with `ConfigDiff` as a function to the message it returns.
-/

namespace Minio.Admin.ServerConfig

variable {α : Type} [Inhabited α] (configDiff : α → α → String)

/-- Why `getValidServerConfig` fails. -/
inductive ConfigErr where
  /-- `errXLWriteQuorum` -/
  | writeQuorum
  deriving DecidableEq, Repr

/-- The inner loop of the counting loop (lines 554-576) for config `i`, over `j = 0, 1, …, i`:
the first counted config before `i` equal to config `i` gets one more; if there is none,
config `i` starts a count of its own. -/
def countConfig (serverConfigs : List α) (i : Nat) (configCounter : Nat → Nat) :
    List Nat → Nat → Nat
  | [] => configCounter
  | j :: js =>
    if j < i ∧ configCounter j = 0 then countConfig serverConfigs i configCounter js
    else if j < i ∧ configDiff (serverConfigs.getD i default) (serverConfigs.getD j default) = ""
    then Function.update configCounter j (configCounter j + 1)
    else if j = i then Function.update configCounter i 1
    else countConfig serverConfigs i configCounter js

/-- The counting loop (lines 548-577) over the configs before `i`; `errs[i]` is whether the
fetch from peer `i` failed. -/
def countConfigs (serverConfigs : List α) (errs : List Bool) : Nat → Nat → Nat
  | 0 => fun _ => 0
  | i + 1 =>
    let configCounter := countConfigs serverConfigs errs i
    if errs.getD i false then configCounter
    else countConfig configDiff serverConfigs i configCounter (List.range (i + 1))

/-- The maximum loop (lines 581-587) over the counters from index `i` on, from the maximum and
config found so far. -/
def maxConfig (serverConfigs : List α) (configCounter : Nat → Nat) :
    List Nat → Nat × α → Nat × α
  | [], acc => acc
  | i :: is, (maxOccurrence, configJSON) =>
    if maxOccurrence < configCounter i then
      maxConfig serverConfigs configCounter is (configCounter i, serverConfigs.getD i default)
    else maxConfig serverConfigs configCounter is (maxOccurrence, configJSON)

/-- `getValidServerConfig(serverConfigs, errs)`. -/
def getValidServerConfig (serverConfigs : List α) (errs : List Bool) : Except ConfigErr α :=
  let quorum := serverConfigs.length / 2 + 1
  let configCounter := countConfigs configDiff serverConfigs errs serverConfigs.length
  let (maxOccurrence, configJSON) :=
    maxConfig serverConfigs configCounter (List.range serverConfigs.length) (0, default)
  if maxOccurrence < quorum then .error .writeQuorum else .ok configJSON

/-! ## Classes of equal configs -/

section Classes

variable (serverConfigs : List α) (errs : List Bool)

/-- Peer `k` returned its config: `errs[k] == nil`. -/
def fetched (k : Nat) : Bool := !errs.getD k false

/-- Configs `j` and `k` are equal: `serverConfigs[j].ConfigDiff(&serverConfigs[k]) == ""`. -/
def sameConfig (j k : Nat) : Bool :=
  configDiff (serverConfigs.getD j default) (serverConfigs.getD k default) == ""

/-- How many of the first `i` peers returned a config equal to config `k`. -/
def classCount (i k : Nat) : Nat :=
  (List.range i).countP fun j => fetched errs j && sameConfig configDiff serverConfigs j k

/-- Config `j` is the first of its class among the first `i` peers that returned one. -/
def IsFirst (i j : Nat) : Prop :=
  j < i ∧ fetched errs j ∧ ∀ j' < j, fetched errs j' → sameConfig configDiff serverConfigs j' j = false

/-- The invariant of the counting loop after the first `i` peers: `configCounter[j]` is
positive exactly at the first config of each class, and there it is the size of the class. -/
structure CountInv (i : Nat) (configCounter : Nat → Nat) : Prop where
  pos_iff : ∀ j, 0 < configCounter j ↔ IsFirst configDiff serverConfigs errs i j
  count : ∀ j, 0 < configCounter j → configCounter j = classCount configDiff serverConfigs errs i j

theorem classCount_succ (i k : Nat) :
    classCount configDiff serverConfigs errs (i + 1) k = classCount configDiff serverConfigs errs i k +
      if fetched errs i && sameConfig configDiff serverConfigs i k then 1 else 0 := by
  simp only [classCount, List.range_succ, List.countP_append, List.countP_singleton]

variable {configDiff} (hequiv : Equivalence fun a b : α => configDiff a b = "")
include hequiv

theorem sameConfig_refl (j : Nat) : sameConfig configDiff serverConfigs j j = true := by
  simp [sameConfig, hequiv.refl]

theorem sameConfig_symm {j k : Nat} (h : sameConfig configDiff serverConfigs j k = true) :
    sameConfig configDiff serverConfigs k j = true := by
  simp only [sameConfig, beq_iff_eq] at h ⊢; exact hequiv.symm h

theorem sameConfig_trans {j k l : Nat} (h₁ : sameConfig configDiff serverConfigs j k = true)
    (h₂ : sameConfig configDiff serverConfigs k l = true) :
    sameConfig configDiff serverConfigs j l = true := by
  simp only [sameConfig, beq_iff_eq] at h₁ h₂ ⊢; exact hequiv.trans h₁ h₂

/-- Configs of one class have the same count. -/
theorem classCount_congr {i k l : Nat} (h : sameConfig configDiff serverConfigs k l = true) :
    classCount configDiff serverConfigs errs i k = classCount configDiff serverConfigs errs i l := by
  refine List.countP_congr fun j _ => ?_
  simp only [Bool.and_eq_true]
  exact and_congr_right fun _ =>
    ⟨fun hj => sameConfig_trans serverConfigs hequiv hj h,
      fun hj => sameConfig_trans serverConfigs hequiv hj (sameConfig_symm serverConfigs hequiv h)⟩

/-- Every fetched config before `i` has a first config of its class before `i`. -/
theorem exists_isFirst {i j : Nat} (hj : j < i) (hf : fetched errs j) :
    ∃ r, IsFirst configDiff serverConfigs errs i r ∧ sameConfig configDiff serverConfigs r j = true := by
  induction j using Nat.strongRecOn with
  | ind j ih =>
    by_cases hex : ∃ j' < j, fetched errs j' ∧ sameConfig configDiff serverConfigs j' j = true
    · obtain ⟨j', hj', hf', hs⟩ := hex
      obtain ⟨r, hr, hrs⟩ := ih j' hj' (by omega) hf'
      exact ⟨r, hr, sameConfig_trans serverConfigs hequiv hrs hs⟩
    · refine ⟨j, ⟨hj, hf, fun j' hj' hf' => ?_⟩, sameConfig_refl serverConfigs hequiv j⟩
      simpa using fun hs => hex ⟨j', hj', hf', hs⟩

/-- A class has one first config. -/
theorem IsFirst.unique {i r₁ r₂ : Nat} (h₁ : IsFirst configDiff serverConfigs errs i r₁)
    (h₂ : IsFirst configDiff serverConfigs errs i r₂)
    (hs : sameConfig configDiff serverConfigs r₁ r₂ = true) : r₁ = r₂ := by
  rcases Nat.lt_trichotomy r₁ r₂ with h | h | h
  · exact absurd hs (by rw [h₂.2.2 r₁ h h₁.2.1]; decide)
  · exact h
  · exact absurd (sameConfig_symm serverConfigs hequiv hs) (by rw [h₁.2.2 r₂ h h₂.2.1]; decide)

end Classes

/-! ## The counting loop -/

section Loop

variable (serverConfigs : List α) (i : Nat) (configCounter : Nat → Nat) (rest : List Nat)

/-- The inner loop passes over the configs before `i` that are uncounted or unequal to it. -/
theorem countConfig_miss : ∀ js : List Nat,
    (∀ j ∈ js, j < i ∧ (configCounter j = 0 ∨ sameConfig configDiff serverConfigs i j = false)) →
    countConfig configDiff serverConfigs i configCounter (js ++ rest) =
      countConfig configDiff serverConfigs i configCounter rest
  | [], _ => rfl
  | j :: js, h => by
    obtain ⟨hj, hc⟩ := h j (List.mem_cons_self _ _)
    have ih := countConfig_miss js fun j' hj' => h j' (List.mem_cons_of_mem _ hj')
    rw [List.cons_append, countConfig]
    by_cases h0 : configCounter j = 0
    · rw [if_pos ⟨hj, h0⟩, ih]
    · have hd : ¬configDiff (serverConfigs.getD i default) (serverConfigs.getD j default) = "" := by
        simpa [sameConfig, h0] using hc
      rw [if_neg fun h => h0 h.2, if_neg fun h => hd h.2, if_neg (by omega), ih]

/-- The inner loop counts config `i` at the one counted config before it equal to it. -/
theorem countConfig_hit {j₀ : Nat} (h0 : configCounter j₀ ≠ 0)
    (hs : sameConfig configDiff serverConfigs i j₀ = true) : ∀ js : List Nat, (∀ j ∈ js, j < i) →
    j₀ ∈ js → (∀ j ∈ js, configCounter j ≠ 0 → sameConfig configDiff serverConfigs i j = true →
      j = j₀) →
    countConfig configDiff serverConfigs i configCounter (js ++ rest) =
      Function.update configCounter j₀ (configCounter j₀ + 1)
  | [], _, hj, _ => nomatch hj
  | j :: js, hlt, hj, huniq => by
    have hd : configDiff (serverConfigs.getD i default) (serverConfigs.getD j₀ default) = "" := by
      simpa [sameConfig] using hs
    rw [List.cons_append, countConfig]
    by_cases hjj : j = j₀
    · subst hjj
      rw [if_neg fun h => h0 h.2, if_pos ⟨hlt j (List.mem_cons_self _ _), hd⟩]
    · have hj' : j₀ ∈ js := (List.mem_cons.mp hj).resolve_left (Ne.symm hjj)
      have ih := countConfig_hit h0 hs js (fun j' h => hlt j' (List.mem_cons_of_mem _ h)) hj'
        fun j' h => huniq j' (List.mem_cons_of_mem _ h)
      have hji := hlt j (List.mem_cons_self _ _)
      by_cases hc : configCounter j = 0
      · rw [if_pos ⟨hji, hc⟩, ih]
      · have hne : ¬configDiff (serverConfigs.getD i default) (serverConfigs.getD j default) = "" :=
          fun h => hjj (huniq j (List.mem_cons_self _ _) hc (by simp only [sameConfig, h, beq_self_eq_true]))
        rw [if_neg fun h => hc h.2, if_neg fun h => hne h.2, if_neg (by omega), ih]

theorem countConfig_self :
    countConfig configDiff serverConfigs i configCounter [i] = Function.update configCounter i 1 := by
  simp [countConfig]

end Loop

/-! ## The invariant over the whole loop -/

section Run

variable {configDiff} (serverConfigs : List α) (errs : List Bool)

theorem isFirst_succ_of_ne {i j : Nat} (hj : j ≠ i) :
    IsFirst configDiff serverConfigs errs (i + 1) j ↔ IsFirst configDiff serverConfigs errs i j :=
  ⟨fun ⟨h₁, h₂, h₃⟩ => ⟨by omega, h₂, h₃⟩, fun ⟨h₁, h₂, h₃⟩ => ⟨by omega, h₂, h₃⟩⟩

theorem countInv_zero : CountInv configDiff serverConfigs errs 0 fun _ => 0 :=
  ⟨fun j => iff_of_false (Nat.lt_irrefl 0) fun h => Nat.not_lt_zero j h.1, fun _ h => absurd h (Nat.lt_irrefl 0)⟩

/-- When config `i` does not start a class, the first configs of the first `i + 1` peers are
those of the first `i`. -/
theorem isFirst_succ_iff {i : Nat} (hnot : ¬IsFirst configDiff serverConfigs errs (i + 1) i)
    (j : Nat) :
    IsFirst configDiff serverConfigs errs (i + 1) j ↔ IsFirst configDiff serverConfigs errs i j := by
  by_cases hj : j = i
  · subst hj; exact iff_of_false hnot fun h => Nat.lt_irrefl j h.1
  · exact isFirst_succ_of_ne serverConfigs errs hj

/-- A round for a peer whose fetch failed changes nothing. -/
theorem CountInv.succ_failed {i : Nat} {configCounter : Nat → Nat}
    (hc : CountInv configDiff serverConfigs errs i configCounter) (herr : errs.getD i false = true) :
    CountInv configDiff serverConfigs errs (i + 1) configCounter := by
  have hnf : fetched errs i = false := by simp only [fetched, herr, Bool.not_true]
  have hiff : ∀ j, IsFirst configDiff serverConfigs errs (i + 1) j ↔
      IsFirst configDiff serverConfigs errs i j :=
    isFirst_succ_iff serverConfigs errs fun h => absurd h.2.1 (by rw [hnf]; decide)
  refine ⟨fun j => (hc.pos_iff j).trans (hiff j).symm, fun j hj => ?_⟩
  rw [hc.count j hj, classCount_succ, hnf, Bool.false_and, if_neg (by decide), Nat.add_zero]

variable (hequiv : Equivalence fun a b : α => configDiff a b = "")
include hequiv

/-- A round for a fetched config equal to the one counted at `j₀` counts it there. -/
theorem CountInv.succ_joins {i j₀ : Nat} {configCounter : Nat → Nat}
    (hc : CountInv configDiff serverConfigs errs i configCounter) (hf : fetched errs i = true)
    (hpos : 0 < configCounter j₀) (hs : sameConfig configDiff serverConfigs i j₀ = true) :
    CountInv configDiff serverConfigs errs (i + 1)
      (countConfig configDiff serverConfigs i configCounter (List.range (i + 1))) := by
  have hfirst := (hc.pos_iff j₀).mp hpos
  have huniq (j : Nat) (hj : configCounter j ≠ 0)
      (hsj : sameConfig configDiff serverConfigs i j = true) : j = j₀ :=
    IsFirst.unique serverConfigs errs hequiv ((hc.pos_iff j).mp (Nat.pos_of_ne_zero hj)) hfirst
      (sameConfig_trans serverConfigs hequiv (sameConfig_symm serverConfigs hequiv hsj) hs)
  rw [List.range_succ, countConfig_hit configDiff serverConfigs i configCounter [i]
    (Nat.pos_iff_ne_zero.mp hpos) hs (List.range i) (fun j hj => List.mem_range.mp hj)
    (List.mem_range.mpr hfirst.1) fun j _ => huniq j]
  have hiff := isFirst_succ_iff serverConfigs errs fun h => absurd
    (h.2.2 j₀ hfirst.1 hfirst.2.1) (by rw [sameConfig_symm serverConfigs hequiv hs]; decide)
  refine ⟨fun j => ?_, fun j hj => ?_⟩
  · by_cases hj : j = j₀
    · subst hj; rw [Function.update_same, hiff]; exact iff_of_true (Nat.succ_pos _) hfirst
    · rw [Function.update_noteq hj, hiff, hc.pos_iff]
  · rw [classCount_succ, hf, Bool.true_and]
    by_cases hj' : j = j₀
    · subst hj'; rw [Function.update_same, hc.count j hpos, if_pos hs]
    · rw [Function.update_noteq hj'] at hj ⊢
      rw [hc.count j hj, if_neg fun h => hj' (huniq j (Nat.pos_iff_ne_zero.mp hj) h), Nat.add_zero]

/-- A round for a fetched config equal to no counted one starts its class at `i`. -/
theorem CountInv.succ_starts {i : Nat} {configCounter : Nat → Nat}
    (hc : CountInv configDiff serverConfigs errs i configCounter) (hf : fetched errs i = true)
    (hmiss : ∀ j, 0 < configCounter j → sameConfig configDiff serverConfigs i j = false) :
    CountInv configDiff serverConfigs errs (i + 1)
      (countConfig configDiff serverConfigs i configCounter (List.range (i + 1))) := by
  rw [List.range_succ, countConfig_miss configDiff serverConfigs i configCounter [i] (List.range i)
    (fun j hj => ⟨List.mem_range.mp hj, (Nat.eq_zero_or_pos (configCounter j)).imp id (hmiss j)⟩),
    countConfig_self configDiff]
  -- no fetched config before `i` is equal to it
  have hclass (j' : Nat) (hj' : j' < i) (hf' : fetched errs j') :
      sameConfig configDiff serverConfigs j' i = false := by
    cases h : sameConfig configDiff serverConfigs j' i
    · rfl
    · obtain ⟨r, hr, hrs⟩ := exists_isFirst serverConfigs errs hequiv hj' hf'
      have hir := sameConfig_trans serverConfigs hequiv (sameConfig_symm serverConfigs hequiv h)
        (sameConfig_symm serverConfigs hequiv hrs)
      rw [hmiss r ((hc.pos_iff r).mpr hr)] at hir
      exact absurd hir (by decide)
  refine ⟨fun j => ?_, fun j hj => ?_⟩
  · by_cases hj : j = i
    · subst hj; rw [Function.update_same]
      exact iff_of_true Nat.one_pos ⟨Nat.lt_succ_self j, hf, hclass⟩
    · rw [Function.update_noteq hj, isFirst_succ_of_ne serverConfigs errs hj, hc.pos_iff]
  · rw [classCount_succ, hf, Bool.true_and]
    by_cases hj' : j = i
    · subst hj'
      have h0 : classCount configDiff serverConfigs errs j j = 0 := List.countP_eq_zero.mpr
        fun j' hj' => by
          rw [List.mem_range] at hj'
          cases hfj : fetched errs j'
          · simp
          · simp [hclass j' hj' hfj]
      rw [Function.update_same, if_pos (sameConfig_refl serverConfigs hequiv j), h0]
    · rw [Function.update_noteq hj'] at hj ⊢
      rw [hc.count j hj, hmiss j hj]; rfl

/-- Each round of the counting loop keeps its invariant. -/
theorem CountInv.succ {i : Nat} {configCounter : Nat → Nat}
    (hc : CountInv configDiff serverConfigs errs i configCounter) :
    CountInv configDiff serverConfigs errs (i + 1)
      (if errs.getD i false then configCounter
       else countConfig configDiff serverConfigs i configCounter (List.range (i + 1))) := by
  split
  · exact hc.succ_failed serverConfigs errs ‹_›
  have hf : fetched errs i = true := by
    simp only [fetched, Bool.eq_false_iff.mpr ‹_›, Bool.not_false]
  by_cases hhit : ∃ j₀, 0 < configCounter j₀ ∧ sameConfig configDiff serverConfigs i j₀ = true
  · obtain ⟨j₀, hpos, hs⟩ := hhit
    exact hc.succ_joins serverConfigs errs hequiv hf hpos hs
  · exact hc.succ_starts serverConfigs errs hequiv hf fun j hj => by
      simpa using fun h => hhit ⟨j, hj, h⟩

/-- The counting loop keeps its invariant at every round. -/
theorem countInv_countConfigs :
    ∀ i, CountInv configDiff serverConfigs errs i (countConfigs configDiff serverConfigs errs i)
  | 0 => countInv_zero serverConfigs errs
  | i + 1 => (countInv_countConfigs i).succ serverConfigs errs hequiv

end Run

/-- The maximum loop ends at the largest counter, at the config of the first index that
reaches it when that exceeds the start. -/
theorem maxConfig_spec (serverConfigs : List α) (configCounter : Nat → Nat) :
    ∀ (is : List Nat) (acc : Nat × α),
      acc.1 ≤ (maxConfig serverConfigs configCounter is acc).1 ∧
      (∀ i ∈ is, configCounter i ≤ (maxConfig serverConfigs configCounter is acc).1) ∧
      (maxConfig serverConfigs configCounter is acc = acc ∨
        ∃ i ∈ is, (maxConfig serverConfigs configCounter is acc).1 = configCounter i ∧
          (maxConfig serverConfigs configCounter is acc).2 = serverConfigs.getD i default)
  | [], _ => ⟨Nat.le_refl _, fun _ h => (nomatch h), .inl rfl⟩
  | i :: is, (m, c) => by
    rw [maxConfig]
    split
    · obtain ⟨h₁, h₂, h₃⟩ := maxConfig_spec serverConfigs configCounter is
        (configCounter i, serverConfigs.getD i default)
      refine ⟨by simp only at h₁ ⊢; omega, fun j hj => ?_, .inr ?_⟩
      · rcases List.mem_cons.mp hj with rfl | hj
        · exact h₁
        · exact h₂ j hj
      · rcases h₃ with h₃ | ⟨j, hj, h⟩
        · exact ⟨i, List.mem_cons_self _ _, by rw [h₃], by rw [h₃]⟩
        · exact ⟨j, List.mem_cons_of_mem _ hj, h⟩
    · obtain ⟨h₁, h₂, h₃⟩ := maxConfig_spec serverConfigs configCounter is (m, c)
      refine ⟨h₁, fun j hj => ?_, ?_⟩
      · rcases List.mem_cons.mp hj with rfl | hj
        · simp only at h₁; omega
        · exact h₂ j hj
      · rcases h₃ with h₃ | ⟨j, hj, h⟩
        · exact .inl h₃
        · exact .inr ⟨j, List.mem_cons_of_mem _ hj, h⟩

/-- For an equivalence `ConfigDiff`, `getValidServerConfig` keeps the counting invariant at
every round, returns a config exactly when a class of equal fetched configs holds a majority of
the peers, returns a config of such a class, and otherwise fails with `errXLWriteQuorum`. -/
theorem getValidServerConfig_majority (hequiv : Equivalence fun a b : α => configDiff a b = "")
    (serverConfigs : List α) (errs : List Bool) :
    (∀ i, CountInv configDiff serverConfigs errs i (countConfigs configDiff serverConfigs errs i)) ∧
    ((∃ c, getValidServerConfig configDiff serverConfigs errs = .ok c) ↔
      ∃ k < serverConfigs.length, fetched errs k = true ∧
        serverConfigs.length / 2 + 1 ≤ classCount configDiff serverConfigs errs serverConfigs.length k) ∧
    (∀ c, getValidServerConfig configDiff serverConfigs errs = .ok c →
      ∃ k < serverConfigs.length, fetched errs k = true ∧ c = serverConfigs.getD k default ∧
        serverConfigs.length / 2 + 1 ≤ classCount configDiff serverConfigs errs serverConfigs.length k) ∧
    ((¬∃ k < serverConfigs.length, fetched errs k = true ∧
        serverConfigs.length / 2 + 1 ≤ classCount configDiff serverConfigs errs serverConfigs.length k) →
      getValidServerConfig configDiff serverConfigs errs = .error .writeQuorum) := by
  have hinv := countInv_countConfigs serverConfigs errs hequiv serverConfigs.length
  obtain ⟨h₁, h₂, h₃⟩ := maxConfig_spec serverConfigs
    (countConfigs configDiff serverConfigs errs serverConfigs.length) (List.range serverConfigs.length) (0, default)
  have hget : getValidServerConfig configDiff serverConfigs errs =
      let m := maxConfig serverConfigs (countConfigs configDiff serverConfigs errs serverConfigs.length)
        (List.range serverConfigs.length) (0, default)
      if m.1 < serverConfigs.length / 2 + 1 then .error .writeQuorum else .ok m.2 := rfl
  generalize maxConfig serverConfigs _ _ _ = m at h₁ h₂ h₃ hget
  obtain ⟨M, c⟩ := m
  -- a returned config is the first of a class with a majority
  have hok (c' : α) (hc : getValidServerConfig configDiff serverConfigs errs = .ok c') :
      ∃ k < serverConfigs.length, fetched errs k = true ∧ c' = serverConfigs.getD k default ∧
        serverConfigs.length / 2 + 1 ≤ classCount configDiff serverConfigs errs serverConfigs.length k := by
    by_cases hM : M < serverConfigs.length / 2 + 1
    · rw [hget, if_pos hM] at hc; exact nomatch hc
    rw [hget, if_neg hM, Except.ok.injEq] at hc
    obtain ⟨j, hj, hMj, hcj⟩ := h₃.resolve_left fun h => by simp only [Prod.mk.injEq] at h; omega
    have hpos : 0 < countConfigs configDiff serverConfigs errs serverConfigs.length j := by
      simp only at hMj; omega
    have hfirst := (hinv.pos_iff j).mp hpos
    refine ⟨j, hfirst.1, hfirst.2.1, hc ▸ hcj, ?_⟩
    rw [← hinv.count j hpos, ← hMj]; omega
  -- a class with a majority makes the maximum reach the quorum
  have hex (hk : ∃ k < serverConfigs.length, fetched errs k = true ∧
      serverConfigs.length / 2 + 1 ≤ classCount configDiff serverConfigs errs serverConfigs.length k) :
      ∃ c', getValidServerConfig configDiff serverConfigs errs = .ok c' := by
    obtain ⟨k, hk, hf, hq⟩ := hk
    obtain ⟨r, hr, hrk⟩ := exists_isFirst serverConfigs errs hequiv hk hf
    have hcount := hinv.count r ((hinv.pos_iff r).mpr hr)
    rw [classCount_congr serverConfigs errs hequiv hrk] at hcount
    have hle := h₂ r (List.mem_range.mpr hr.1)
    exact ⟨c, by rw [hget, if_neg (by simp only at hle; omega)]⟩
  refine ⟨countInv_countConfigs serverConfigs errs hequiv,
    ⟨fun ⟨c', hc⟩ => (hok c' hc).imp fun _ ⟨hk, hf, _, hq⟩ => ⟨hk, hf, hq⟩, hex⟩, hok, fun hno => ?_⟩
  cases h : getValidServerConfig configDiff serverConfigs errs with
  | error e => cases e; rfl
  | ok c' => exact absurd ((hok c' h).imp fun _ ⟨hk, hf, _, hq⟩ => ⟨hk, hf, hq⟩) hno

/-- `Nat` configs compared as `ConfigDiff` compares them: empty exactly on equal configs. -/
def natConfigDiff (a b : Nat) : String := if a = b then "" else "differ"

theorem getValidServerConfig_majority_two_of_three :
    Equivalence (fun a b => natConfigDiff a b = "") ∧
    (∀ i, CountInv natConfigDiff [1, 2, 1] [false, true, false] i
      (countConfigs natConfigDiff [1, 2, 1] [false, true, false] i)) ∧
    ((∃ c, getValidServerConfig natConfigDiff [1, 2, 1] [false, true, false] = .ok c) ↔
      ∃ k < 3, fetched [false, true, false] k = true ∧
        3 / 2 + 1 ≤ classCount natConfigDiff [1, 2, 1] [false, true, false] 3 k) ∧
    (∀ c, getValidServerConfig natConfigDiff [1, 2, 1] [false, true, false] = .ok c →
      ∃ k < 3, fetched [false, true, false] k = true ∧ c = [1, 2, 1].getD k default ∧
        3 / 2 + 1 ≤ classCount natConfigDiff [1, 2, 1] [false, true, false] 3 k) ∧
    ((¬∃ k < 3, fetched [false, true, false] k = true ∧
        3 / 2 + 1 ≤ classCount natConfigDiff [1, 2, 1] [false, true, false] 3 k) →
      getValidServerConfig natConfigDiff [1, 2, 1] [false, true, false] = .error .writeQuorum) :=
  have key (a b : Nat) : natConfigDiff a b = "" ↔ a = b := by
    unfold natConfigDiff; split <;> simp_all
  have hequiv : Equivalence fun a b => natConfigDiff a b = "" :=
    ⟨fun a => (key a a).mpr rfl, fun h => (key _ _).mpr ((key _ _).mp h).symm,
      fun h₁ h₂ => (key _ _).mpr (((key _ _).mp h₁).trans ((key _ _).mp h₂))⟩
  ⟨hequiv, getValidServerConfig_majority natConfigDiff hequiv [1, 2, 1] [false, true, false]⟩

example : getValidServerConfig natConfigDiff [1, 2, 1] [false, true, false] = .ok 1 ∧
    getValidServerConfig natConfigDiff [1, 2, 1] [false, false, true] = .error .writeQuorum :=
  ⟨rfl, rfl⟩

end Minio.Admin.ServerConfig
