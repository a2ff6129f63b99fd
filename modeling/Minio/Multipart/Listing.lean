import Mathlib.Data.List.Nodup
/-!
# Paging shared by the listings

`ListObjectParts` and `ListMultipartUploads` page through a sorted list after a marker. Both
skip the marker the same way: they walk the list, counting each element, and stop after the
first whose key is the marker, having passed the whole list when none is. This module gives
that loop once, and the list facts about pages that both listings' proofs share.
-/

namespace Minio.Multipart.Listing

variable {α β : Type}

/-- The marker loops of `ListObjectParts` (lines 424-432) and `ListMultipartUploads`
(lines 168-180): how many elements they pass, up to and including the first whose key is
`marker`, or all of them. -/
def skipPast [DecidableEq β] (key : α → β) (marker : β) : List α → Nat
  | [] => 0
  | a :: as => if key a = marker then 1 else skipPast key marker as + 1

/-- The marker loop stops right after the first element with the marker's key. -/
theorem skipPast_eq [DecidableEq β] (key : α → β) (marker : β) : ∀ as : List α,
    skipPast key marker as =
      if marker ∈ as.map key then (as.map key).indexOf marker + 1 else as.length
  | [] => rfl
  | a :: as => by
    rw [skipPast, List.map_cons]
    by_cases h : key a = marker
    · rw [if_pos h, if_pos (List.mem_cons.mpr (.inl h.symm)), List.indexOf_cons_eq _ h]
    · rw [if_neg h, skipPast_eq key marker as, List.indexOf_cons_ne _ h]
      by_cases hm : marker ∈ as.map key
      · rw [if_pos hm, if_pos (List.mem_cons_of_mem _ hm)]
      · rw [if_neg hm, if_neg (by simp [hm, Ne.symm h]), List.length_cons]

/-- A page from `i` ends short of the list exactly when `k` more elements do. -/
theorem length_page_lt_iff (l : List α) (i k : Nat) (hi : i ≤ l.length) :
    i + ((l.drop i).take k).length < l.length ↔ i + k < l.length := by
  rw [List.length_take, List.length_drop]
  omega

/-- The last element of a full page of `k` from `i`. -/
theorem getLast?_page (l : List α) (i k : Nat) (hk : 0 < k) (h : i + k ≤ l.length) :
    ((l.drop i).take k).getLast? = l[i + k - 1]? := by
  have hlen : ((l.drop i).take k).length = k := by
    rw [List.length_take, List.length_drop]
    omega
  rw [List.getLast?_eq_getElem?, hlen, List.getElem?_take_of_lt (by omega), List.getElem?_drop,
    show i + (k - 1) = i + k - 1 by omega]

/-- In a list of distinct keys, the key of the last element of a full page from `i` sits at
position `i + k - 1`, so skipping past it starts the next page at `i + k`. -/
theorem indexOf_last_page [DecidableEq β] (key : α → β) (l : List α) (i k : Nat) (hk : 0 < k)
    (h : i + k ≤ l.length) (hnd : (l.map key).Nodup) :
    ∃ a, ((l.drop i).take k).getLast? = some a ∧ (l.map key).indexOf (key a) + 1 = i + k := by
  have hi : i + k - 1 < l.length := by omega
  have hi' : i + k - 1 < (l.map key).length := by rwa [List.length_map]
  have hget : (l.map key)[i + k - 1] = key l[i + k - 1] := List.getElem_map _
  refine ⟨l[i + k - 1], by rw [getLast?_page l i k hk h, List.getElem?_eq_getElem hi], ?_⟩
  rw [← hget, List.indexOf_getElem hnd]
  omega

end Minio.Multipart.Listing
