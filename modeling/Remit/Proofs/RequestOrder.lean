import Mathlib.Data.List.Permutation
import Remit.Proofs.Account
import Remit.Response

/-!
# The order of entries

A response lists its entries in the order in which the request first names their ids. The place of
an entry is the position of the first account with its id (`inRequestOrder_eq_sortByPlace`), and
sorting by place is the library's stable sort (`sortByPlace_eq_mergeSort`): it keeps every entry
(`perm_sortByPlace`), puts them in order (`pairwise_sortByPlace`) and leaves alone what is in order
already (`sortByPlace_of_pairwise`).

`ListsInOrder` says what that means for a debit and a credit entry, whether or not the request names
them at all, and `listsInOrder_iff` that this leaves one list only.
-/

namespace Remit

open Text

namespace Response

/-! ## Sorting -/

/-- The place of one entry is not behind that of another. -/
def precedes (place : Entry → Nat) (e e' : Entry) : Bool :=
  place e ≤ place e'

section

variable (place : Entry → Nat)

theorem precedes_trans (a b c : Entry) (h : precedes place a b = true)
    (h' : precedes place b c = true) : precedes place a c = true := by
  simp only [precedes, decide_eq_true_eq] at h h' ⊢
  omega

theorem precedes_total (a b : Entry) : (precedes place a b || precedes place b a) = true := by
  simp only [precedes, Bool.or_eq_true, decide_eq_true_eq]
  omega

/-- An entry is put between those before its place and those that are not. -/
theorem insertByPlace_append {e : Entry} {before after : List Entry}
    (hbefore : ∀ x ∈ before, ¬ place e ≤ place x) (hafter : ∀ x ∈ after, place e ≤ place x) :
    insertByPlace place e (before ++ after) = before ++ e :: after := by
  induction before with
  | nil =>
    cases after with
    | nil => rfl
    | cons x rest =>
      show insertByPlace place e (x :: rest) = e :: x :: rest
      rw [insertByPlace, if_pos (hafter x List.mem_cons_self)]
  | cons x rest ih =>
    have hrest := ih fun y hy => hbefore y (List.mem_cons_of_mem x hy)
    rw [List.cons_append, insertByPlace, if_neg (hbefore x List.mem_cons_self), hrest]
    rfl

theorem sortByPlace_eq_mergeSort (entries : List Entry) :
    sortByPlace place entries = entries.mergeSort (precedes place) := by
  induction entries with
  | nil => rw [List.mergeSort_nil, sortByPlace, List.foldr_nil]
  | cons e rest ih =>
    -- The sorted list of all entries is that of the others with the first one put in.
    obtain ⟨before, after, hall, hrest, hbefore⟩ :=
      List.mergeSort_cons (precedes_trans place) (precedes_total place) e rest
    have hsorted :=
      List.pairwise_mergeSort (precedes_trans place) (precedes_total place) (e :: rest)
    rw [hall] at hsorted
    have hafter := (List.pairwise_cons.1 (List.pairwise_append.1 hsorted).2.1).1
    rw [hall, sortByPlace, List.foldr_cons]
    show insertByPlace place e (sortByPlace place rest) = before ++ e :: after
    rw [ih, hrest]
    apply insertByPlace_append
    · intro x hx
      simpa [precedes] using hbefore x hx
    · intro x hx
      simpa [precedes] using hafter x hx

theorem perm_sortByPlace (entries : List Entry) : (sortByPlace place entries).Perm entries := by
  rw [sortByPlace_eq_mergeSort]
  exact List.mergeSort_perm entries _

theorem pairwise_sortByPlace (entries : List Entry) :
    (sortByPlace place entries).Pairwise fun e e' => place e ≤ place e' := by
  have hsorted := List.pairwise_mergeSort (precedes_trans place) (precedes_total place) entries
  rw [← sortByPlace_eq_mergeSort] at hsorted
  simpa only [precedes, decide_eq_true_eq] using hsorted

/-- Entries that are in order already are left as they are. -/
theorem sortByPlace_of_pairwise {entries : List Entry}
    (h : entries.Pairwise fun e e' => place e ≤ place e') :
    sortByPlace place entries = entries := by
  rw [sortByPlace_eq_mergeSort]
  apply List.mergeSort_of_pairwise
  simpa only [precedes, decide_eq_true_eq] using h

end

/-! ## The order of the request -/

/-- Entries are sorted by the positions of the first accounts with their ids. -/
theorem inRequestOrder_eq_sortByPlace (accounts : List Account) (entries : List Entry) :
    inRequestOrder accounts entries
      = sortByPlace (fun e => Account.position accounts e.id) entries := by
  unfold inRequestOrder
  simp only [Account.getD_positionIn?_firstPositions]

theorem perm_inRequestOrder (accounts : List Account) (entries : List Entry) :
    (inRequestOrder accounts entries).Perm entries :=
  perm_sortByPlace _ entries

theorem mem_inRequestOrder {accounts : List Account} {debit credit e : Entry} :
    e ∈ inRequestOrder accounts [debit, credit] ↔ e = debit ∨ e = credit := by
  rw [(perm_inRequestOrder accounts [debit, credit]).mem_iff, List.mem_pair]

/-- Of two entries the second comes first only if its account does. -/
theorem inRequestOrder_pair (accounts : List Account) (debit credit : Entry) :
    inRequestOrder accounts [debit, credit]
      = if Account.position accounts credit.id < Account.position accounts debit.id
        then [credit, debit] else [debit, credit] := by
  have hsort : ∀ place : Entry → Nat,
      sortByPlace place [debit, credit] = insertByPlace place debit [credit] := fun _ => rfl
  rw [inRequestOrder_eq_sortByPlace, hsort, insertByPlace]
  split
  · next hle => rw [if_neg (Nat.not_lt_of_le hle)]
  · next hlt =>
    rw [if_pos (Nat.lt_of_not_le hlt)]
    rfl

end Response

/-! ## Two entries in order -/

/-- Two entries are listed in the order of the accounts. An id that no account has counts as coming
after all others, and the debit entry comes first if both have the same position. -/
structure ListsInOrder (accounts : List Account) (debit credit : Entry) (entries : List Entry) :
    Prop where
  perm : entries.Perm [debit, credit]
  sorted : entries.Pairwise fun e e' =>
    Account.position accounts e.id ≤ Account.position accounts e'.id
  tie : Account.position accounts debit.id = Account.position accounts credit.id →
    entries = [debit, credit]

theorem listsInOrder_inRequestOrder (accounts : List Account) (debit credit : Entry) :
    ListsInOrder accounts debit credit (Response.inRequestOrder accounts [debit, credit]) where
  perm := Response.perm_inRequestOrder accounts [debit, credit]
  sorted := by
    rw [Response.inRequestOrder_eq_sortByPlace]
    exact Response.pairwise_sortByPlace _ _
  tie := by
    intro htie
    rw [Response.inRequestOrder_eq_sortByPlace]
    apply Response.sortByPlace_of_pairwise
    rw [List.pairwise_pair]
    exact Nat.le_of_eq htie

/-- The order leaves one list only. -/
theorem listsInOrder_iff {accounts : List Account} {debit credit : Entry} {entries : List Entry} :
    ListsInOrder accounts debit credit entries
      ↔ entries = Response.inRequestOrder accounts [debit, credit] := by
  constructor
  · intro h
    have hsorted := h.sorted
    rw [Response.inRequestOrder_pair]
    rcases List.perm_pair.1 h.perm with rfl | rfl
    · rw [List.pairwise_pair] at hsorted
      rw [if_neg (Nat.not_lt_of_le hsorted)]
    · rw [List.pairwise_pair] at hsorted
      split
      · rfl
      · next hle => exact h.tie (Nat.le_antisymm (Nat.le_of_not_lt hle) hsorted)
  · intro h
    rw [h]
    exact listsInOrder_inRequestOrder accounts debit credit

end Remit
