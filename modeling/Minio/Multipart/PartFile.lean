import Mathlib.Data.Nat.Digits
import Mathlib.Data.String.Basic
/-!
# Part file names

Part files of an upload are named `NNNNN.etag` (`encodePartFile`, `decodePartFile` in the FS
multipart code). The name is built with `fmt.Sprintf("%.5d.%s", ...)` and taken apart with
`strings.Split` on `"."` and `strconv.Atoi`; these three library functions are modelled here on
character lists, as Go computes them for a 64-bit `int`.
-/

namespace Minio.Multipart.PartFile

/-- File contents. -/
abbrev Bytes := List UInt8

/-- `PartInfo`, as the append record stores it. -/
structure PartInfo where
  partNumber : Int
  etag : String
  deriving DecidableEq, Repr

/-- `CompletePart`: a part the client lists in `CompleteMultipartUpload`. -/
structure CompletePart where
  partNumber : Int
  etag : String
  deriving DecidableEq, Repr

/-- `fsMetaJSONFile`. -/
def fsMetaJSONFile : String := "fs.json"

/-- `fmt.Sprintf("%.5d", n)`: the decimal digits of `|n|`, zero-padded to at least five, after
a `-` when `n` is negative. -/
def fmt5d (n : Int) : String :=
  let ds := Nat.toDigits 10 n.natAbs
  let body := List.replicate (5 - ds.length) '0' ++ ds
  ⟨if n < 0 then '-' :: body else body⟩

/-- `strings.Split(s, sep)` for a one-character separator. -/
def split (sep : Char) : List Char → List (List Char)
  | [] => [[]]
  | c :: cs =>
    if c = sep then [] :: split sep cs
    else match split sep cs with
      | w :: ws => (c :: w) :: ws
      | [] => [[c]]

/-- The value of a list of decimal digits. -/
def digitsValue (ds : List Char) : Nat :=
  ds.foldl (fun n c => n * 10 + (c.toNat - '0'.toNat)) 0

/-- `strconv.Atoi` for a 64-bit `int`: an optional sign, then at least one decimal digit, and a
value in range; anything else is an error (`none`). -/
def atoi (s : List Char) : Option Int :=
  let (neg, ds) : Bool × List Char := match s with
    | '-' :: ds => (true, ds)
    | '+' :: ds => (false, ds)
    | ds => (false, ds)
  if ds ≠ [] ∧ ds.all Char.isDigit then
    let z : Int := if neg then -(digitsValue ds : Int) else digitsValue ds
    if -2 ^ 63 ≤ z ∧ z < 2 ^ 63 then some z else none
  else none

/-- `encodePartFile`: `partNumber.etag`. -/
def encodePartFile (partNumber : Int) (etag : String) : String :=
  fmt5d partNumber ++ "." ++ etag

/-- `decodePartFile`: the part number and the etag, or `errUnexpected` (`none`). -/
def decodePartFile (name : String) : Option (Int × String) :=
  match split '.' name.toList with
  | [a, b] => (atoi a).map fun n => (n, ⟨b⟩)
  | _ => none

/-! ## Round trip and order of part names

`%.5d` prints every part number `0 ≤ n ≤ 99999` as exactly five decimal digits. So
`decodePartFile` reads back what `encodePartFile` wrote when the etag has no `.`, and two names
compare, character by character, as their part numbers do. -/

/-- The last `k` decimal digits of `n`, most significant first. -/
def fixedDigits : Nat → Nat → List Char
  | 0, _ => []
  | k + 1, n => fixedDigits k (n / 10) ++ [Nat.digitChar (n % 10)]

theorem toDigitsCore_append (f n : Nat) (ds : List Char) :
    Nat.toDigitsCore 10 f n ds = Nat.toDigitsCore 10 f n [] ++ ds := by
  induction f generalizing n ds with
  | zero => rfl
  | succ f ih =>
    simp only [Nat.toDigitsCore]
    split
    · rfl
    · rw [ih _ (_ :: ds), ih _ [_], List.append_assoc, List.singleton_append]

/-- Enough fuel gives the same digits. -/
theorem toDigitsCore_fuel : ∀ (f g n : Nat), n < f → n < g →
    Nat.toDigitsCore 10 f n [] = Nat.toDigitsCore 10 g n []
  | 0, _, _, hf, _ => absurd hf (Nat.not_lt_zero _)
  | _, 0, _, _, hg => absurd hg (Nat.not_lt_zero _)
  | f + 1, g + 1, n, hf, hg => by
    simp only [Nat.toDigitsCore]
    split
    · rfl
    · rw [toDigitsCore_append f, toDigitsCore_append g,
        toDigitsCore_fuel f g (n / 10) (by omega) (by omega)]

theorem toDigits_of_lt {n : Nat} (h : n < 10) : Nat.toDigits 10 n = [Nat.digitChar n] := by
  simp [Nat.toDigits, Nat.toDigitsCore, Nat.div_eq_of_lt h, Nat.mod_eq_of_lt h]

theorem toDigits_of_le {n : Nat} (h : 10 ≤ n) :
    Nat.toDigits 10 n = Nat.toDigits 10 (n / 10) ++ [Nat.digitChar (n % 10)] := by
  conv_lhs => rw [Nat.toDigits, Nat.toDigitsCore, if_neg (show ¬n / 10 = 0 by omega)]
  rw [toDigitsCore_append, toDigitsCore_fuel n (n / 10 + 1) (n / 10) (by omega) (by omega)]
  rfl

theorem fixedDigits_zero : ∀ k, fixedDigits k 0 = List.replicate k '0'
  | 0 => rfl
  | k + 1 => by rw [fixedDigits, fixedDigits_zero k, List.replicate_succ']; rfl

/-- Zero-padded to `k ≥ 1` digits, the decimal digits of `n < 10 ^ k` are its last `k` digits. -/
theorem padded_toDigits : ∀ (k n : Nat), 0 < k → n < 10 ^ k →
    List.replicate (k - (Nat.toDigits 10 n).length) '0' ++ Nat.toDigits 10 n = fixedDigits k n
  | 0, _, hk, _ => absurd hk (Nat.lt_irrefl 0)
  | k + 1, n, _, h => by
    by_cases hn : n < 10
    · rw [toDigits_of_lt hn, fixedDigits, Nat.div_eq_of_lt hn, Nat.mod_eq_of_lt hn,
        fixedDigits_zero]
      rfl
    · have hk : 0 < k := by
        rcases k with _ | k
        · simp at h; omega
        · omega
      have hq : n / 10 < 10 ^ k := by
        rw [Nat.div_lt_iff_lt_mul (by decide)]; rwa [← Nat.pow_succ]
      rw [toDigits_of_le (by omega), fixedDigits, ← padded_toDigits k (n / 10) hk hq,
        List.length_append, List.length_singleton, List.append_assoc,
        show k + 1 - ((Nat.toDigits 10 (n / 10)).length + 1) =
          k - (Nat.toDigits 10 (n / 10)).length by omega]

@[simp] theorem length_fixedDigits : ∀ k n, (fixedDigits k n).length = k
  | 0, _ => rfl
  | k + 1, n => by rw [fixedDigits, List.length_append, length_fixedDigits k, List.length_singleton]

/-- `%.5d` of a part number `0 ≤ n ≤ 99999` is its five digits. -/
theorem fmt5d_eq {n : Int} (h0 : 0 ≤ n) (h : n ≤ 99999) : fmt5d n = ⟨fixedDigits 5 n.natAbs⟩ := by
  simp only [fmt5d, if_neg (show ¬n < 0 by omega)]
  rw [padded_toDigits 5 n.natAbs (by decide) (by omega)]

theorem isDigit_digitChar : ∀ d, d < 10 → (Nat.digitChar d).isDigit = true := by decide

theorem isDigit_of_mem_fixedDigits : ∀ {k n : Nat} {c : Char}, c ∈ fixedDigits k n →
    c.isDigit = true
  | 0, _, _, h => nomatch h
  | _ + 1, _, _, h => by
    rcases List.mem_append.mp h with h | h
    · exact isDigit_of_mem_fixedDigits h
    · rw [List.mem_singleton.mp h]; exact isDigit_digitChar _ (Nat.mod_lt _ (by decide))

theorem split_append (sep : Char) : ∀ (l₁ l₂ : List Char), sep ∉ l₁ →
    split sep (l₁ ++ sep :: l₂) = l₁ :: split sep l₂
  | [], _, _ => by simp [split]
  | c :: l₁, l₂, h => by
    rw [List.mem_cons, not_or] at h
    rw [List.cons_append, split, if_neg (Ne.symm h.1), split_append sep l₁ l₂ h.2]

theorem split_of_not_mem (sep : Char) : ∀ l : List Char, sep ∉ l → split sep l = [l]
  | [], _ => rfl
  | c :: l, h => by
    rw [List.mem_cons, not_or] at h
    simp only [split, if_neg (Ne.symm h.1), split_of_not_mem sep l h.2]

/-- `strconv.Atoi` of a nonempty run of decimal digits is its value, when that fits. -/
theorem atoi_digits {ds : List Char} (hne : ds ≠ []) (hd : ∀ c ∈ ds, c.isDigit = true)
    (hv : digitsValue ds < 2 ^ 63) : atoi ds = some (digitsValue ds : Int) := by
  have hall : ds.all Char.isDigit = true := List.all_eq_true.mpr hd
  obtain ⟨c, cs, rfl⟩ := List.exists_cons_of_ne_nil hne
  have hc := hd c (List.mem_cons_self _ _)
  unfold atoi
  split
  rename_i neg ds' h
  split at h
  · exact absurd hc (by simp_all)
  · exact absurd hc (by simp_all)
  · simp only [Prod.mk.injEq] at h
    obtain ⟨rfl, rfl⟩ := h
    simp only [ne_eq, hne, not_false_eq_true, hall, and_self, if_true, Bool.false_eq_true,
      if_false]
    rw [if_pos (by omega)]

theorem digitsValue_append_digit (ds : List Char) {d : Nat} (hd : d < 10) :
    digitsValue (ds ++ [Nat.digitChar d]) = digitsValue ds * 10 + d := by
  have hv : ∀ d, d < 10 → (Nat.digitChar d).toNat - '0'.toNat = d := by decide
  rw [digitsValue, List.foldl_append, List.foldl_cons, List.foldl_nil, hv d hd]
  rfl

/-- The last `k` digits of `n` read back as `n % 10 ^ k`. -/
theorem digitsValue_fixedDigits : ∀ k n, digitsValue (fixedDigits k n) = n % 10 ^ k
  | 0, n => by rw [Nat.pow_zero, Nat.mod_one]; rfl
  | k + 1, n => by
    rw [fixedDigits, digitsValue_append_digit _ (Nat.mod_lt _ (by decide)), digitsValue_fixedDigits k,
      Nat.pow_succ', Nat.mod_mul, Nat.add_comm, Nat.mul_comm]

/-- The name of part `0 ≤ n ≤ 99999`: its five digits, a `.`, the etag. -/
theorem encodePartFile_toList {n : Int} (h0 : 0 ≤ n) (h : n ≤ 99999) (e : String) :
    (encodePartFile n e).toList = fixedDigits 5 n.natAbs ++ '.' :: e.toList := by
  simp [encodePartFile, fmt5d_eq h0 h, String.toList]

/-- `decodePartFile` reads back the part number and the etag `encodePartFile` wrote. -/
theorem decodePartFile_encodePartFile {n : Int} {e : String} (h0 : 0 ≤ n) (h : n ≤ 99999)
    (he : '.' ∉ e.toList) : decodePartFile (encodePartFile n e) = some (n, e) := by
  have hdot : '.' ∉ fixedDigits 5 n.natAbs := fun hm =>
    absurd (isDigit_of_mem_fixedDigits hm) (by decide)
  have hne : fixedDigits 5 n.natAbs ≠ [] := List.ne_nil_of_length_pos (by simp)
  have hval : digitsValue (fixedDigits 5 n.natAbs) = n.natAbs := by
    rw [digitsValue_fixedDigits, Nat.mod_eq_of_lt (by norm_num; omega)]
  rw [decodePartFile, encodePartFile_toList h0 h, split_append _ _ _ hdot,
    split_of_not_mem _ _ he]
  simp only [atoi_digits hne (fun _ => isDigit_of_mem_fixedDigits) (by omega), hval,
    Option.map_some', Int.natAbs_of_nonneg h0]
  rfl

theorem digitChar_lt : ∀ a, a < 10 → ∀ b, b < 10 → a < b → Nat.digitChar a < Nat.digitChar b := by
  decide

/-- Digit lists of one width compare as their numbers, whatever follows them: the last digit
decides only between numbers that agree on the others. -/
theorem fixedDigits_lt : ∀ (k : Nat) {n₁ n₂ : Nat}, n₁ < n₂ → n₂ < 10 ^ k →
    ∀ r₁ r₂ : List Char, fixedDigits k n₁ ++ r₁ < fixedDigits k n₂ ++ r₂
  | 0, _, _, h, h₂, _, _ => absurd h₂ (by rw [Nat.pow_zero]; omega)
  | k + 1, n₁, n₂, h, h₂, r₁, r₂ => by
    simp only [fixedDigits, List.append_assoc, List.singleton_append]
    by_cases hq : n₁ / 10 < n₂ / 10
    · exact fixedDigits_lt k hq ((Nat.div_lt_iff_lt_mul (by decide)).mpr (by rwa [← Nat.pow_succ])) _ _
    · have heq : n₁ / 10 = n₂ / 10 := le_antisymm (Nat.div_le_div_right h.le) (not_lt.mp hq)
      rw [heq]
      exact List.Lex.append_left _ (List.Lex.rel (digitChar_lt _ (Nat.mod_lt _ (by decide)) _
        (Nat.mod_lt _ (by decide)) (by omega))) _

/-- Part names round-trip for part numbers `0 ≤ n ≤ 99999` and etags without `.`, and sort, in
the order `sort.Strings` uses, as their part numbers do. -/
theorem partFile_names_roundtrip_and_order :
    (∀ (n : Int) (e : String), 0 ≤ n → n ≤ 99999 → '.' ∉ e.toList →
      decodePartFile (encodePartFile n e) = some (n, e)) ∧
    ∀ (n₁ n₂ : Int) (e₁ e₂ : String), 0 ≤ n₁ → n₁ < n₂ → n₂ ≤ 99999 →
      encodePartFile n₁ e₁ < encodePartFile n₂ e₂ :=
  ⟨fun _ _ h0 h he => decodePartFile_encodePartFile h0 h he, fun n₁ n₂ e₁ e₂ h0 h h₂ => by
    rw [String.lt_iff_toList_lt, encodePartFile_toList h0 (by omega),
      encodePartFile_toList (by omega) h₂]
    exact fixedDigits_lt 5 (by omega) (by norm_num; omega) _ _⟩

example : encodePartFile 7 "5d41402a" = "00007.5d41402a" := by decide
example : decodePartFile "00007.5d41402a" = some (7, "5d41402a") := by decide

end Minio.Multipart.PartFile
