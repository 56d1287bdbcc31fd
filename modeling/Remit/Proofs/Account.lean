import Remit.Account

/-!
# The first account with an id

Lookup, position and change all mean the first account with an id. This module says how they go
together: a lookup finds what stands at the position, and a change writes there and nowhere else
(`getElem?_setBalance`), so it moves no position. The table of first positions holds the positions
of the ids that occur (`positionIn?_firstPositions`).
-/

namespace Remit.Account

/-- The position of the first account with an id, or the number of accounts if there is none. -/
def position (accounts : List Account) (id : Text) : Nat :=
  accounts.findIdx (·.id = id)

theorem id_of_find? {accounts : List Account} {id : Text} {account : Account}
    (h : find? accounts id = some account) : account.id = id := by
  simpa using List.find?_some h

theorem find?_eq_getElem? (accounts : List Account) (id : Text) :
    find? accounts id = accounts[position accounts id]? :=
  List.find?_eq_getElem?_findIdx

theorem isSome_find?_iff {accounts : List Account} {id : Text} :
    (find? accounts id).isSome = true ↔ id ∈ accounts.map Account.id := by
  simp [find?]

theorem position_cons (account : Account) (rest : List Account) (id : Text) :
    position (account :: rest) id = if account.id = id then 0 else position rest id + 1 := by
  rw [position, List.findIdx_cons]
  by_cases h : account.id = id
  · rw [if_pos h, decide_eq_true h]
    rfl
  · rw [if_neg h, decide_eq_false h]
    rfl

/-- A change writes to the position of the id. -/
theorem getElem?_setBalance (id : Text) (balance : Balance) (accounts : List Account) (i : Nat) :
    (setBalance id balance accounts)[i]?
      = accounts[i]?.map fun account =>
        if position accounts id = i then { account with balance } else account := by
  induction accounts generalizing i with
  | nil => rfl
  | cons account rest ih =>
    rw [setBalance]
    by_cases h : account.id = id
    · rw [if_pos h, position_cons, if_pos h]
      cases i with
      | zero => rfl
      | succ i => simp
    · rw [if_neg h, position_cons, if_neg h]
      cases i with
      | zero => simp
      | succ i => simp [ih]

theorem map_id_setBalance (id : Text) (balance : Balance) (accounts : List Account) :
    (setBalance id balance accounts).map Account.id = accounts.map Account.id := by
  induction accounts with
  | nil => rfl
  | cons account rest ih =>
    rw [setBalance]
    split
    · rfl
    · rw [List.map_cons, List.map_cons, ih]

/-- Positions depend on the ids only. -/
theorem position_congr {before after : List Account}
    (h : after.map Account.id = before.map Account.id) (id : Text) :
    position after id = position before id := by
  have hmap : ∀ accounts : List Account,
      position accounts id = (accounts.map Account.id).findIdx fun x => decide (x = id) := by
    intro accounts
    rw [List.findIdx_map]
    rfl
  rw [hmap, hmap, h]

/-- Writing back the balance that an account has changes nothing. -/
theorem setBalance_of_find? {accounts : List Account} {id : Text} {account : Account}
    (h : find? accounts id = some account) : setBalance id account.balance accounts = accounts := by
  apply List.ext_getElem?
  intro i
  rw [getElem?_setBalance]
  by_cases hi : position accounts id = i
  · rw [find?_eq_getElem?, hi] at h
    rw [h, Option.map_some, if_pos hi]
  · simp [hi]

/-- A change of one account is not seen by a lookup of another id. -/
theorem find?_setBalance_of_ne {id id' : Text} (h : id ≠ id') (balance : Balance)
    (accounts : List Account) :
    find? (setBalance id balance accounts) id' = find? accounts id' := by
  induction accounts with
  | nil => rfl
  | cons account rest ih =>
    rw [setBalance]
    by_cases hid : account.id = id
    · rw [if_pos hid]
      simp [find?, hid, h]
    · rw [if_neg hid]
      by_cases hid' : account.id = id'
      · simp [find?, hid']
      · simpa [find?, hid'] using ih

/-- Changes of accounts with different ids may be made in either order. -/
theorem setBalance_comm {id id' : Text} (h : id ≠ id') (balance balance' : Balance)
    (accounts : List Account) :
    setBalance id balance (setBalance id' balance' accounts)
      = setBalance id' balance' (setBalance id balance accounts) := by
  induction accounts with
  | nil => rfl
  | cons account rest ih =>
    by_cases hid : account.id = id
    · have hid' : account.id ≠ id' := hid ▸ h
      simp [setBalance, hid, h]
    · by_cases hid' : account.id = id'
      · simp [setBalance, hid', h.symm]
      · simp [setBalance, hid, hid', ih]

/-! ## The table of first positions -/

/-- An id that is entered has the given position, unless it had one before. -/
theorem positionIn?_enter (table : List (Text × Nat)) (id : Text) (i : Nat) (id' : Text) :
    positionIn? (enter table id i) id'
      = (positionIn? table id').or (if id = id' then some i else none) := by
  by_cases hentered : (positionIn? table id).isSome = true
  · rw [enter, if_pos hentered]
    by_cases hid : id = id'
    · obtain ⟨j, hj⟩ := Option.isSome_iff_exists.1 hentered
      rw [← hid, hj, Option.some_or]
    · rw [if_neg hid, Option.or_none]
  · have hlast : positionIn? [(id, i)] id' = if id = id' then some i else none := by
      by_cases hid : id = id'
      · simp [positionIn?, hid]
      · simp [positionIn?, hid]
    rw [enter, if_neg hentered, ← hlast]
    unfold positionIn?
    rw [List.find?_append, Option.map_or]

/-- Going on through some accounts, of which the first is at position `k`, enters the ids that the
table does not have yet. -/
theorem positionIn?_foldl (accounts : List Account) (table : List (Text × Nat)) (k : Nat)
    (id : Text) :
    positionIn? ((accounts.zipIdx k).foldl (fun t entry => enter t entry.1.id entry.2) table) id
      = (positionIn? table id).or ((accounts.findIdx? (·.id = id)).map (k + ·)) := by
  induction accounts generalizing table k with
  | nil => simp
  | cons account rest ih =>
    rw [List.zipIdx_cons, List.foldl_cons, ih, positionIn?_enter, Option.or_assoc]
    congr 1
    rw [List.findIdx?_cons]
    by_cases hid : account.id = id
    · simp [hid]
    · -- The rest begins one position further on.
      simp only [hid, decide_false, Bool.false_eq_true, if_false, Option.none_or, Option.map_map]
      apply congrArg (Option.map · _)
      funext j
      show k + 1 + j = k + (j + 1)
      omega

theorem positionIn?_firstPositions (accounts : List Account) (id : Text) :
    positionIn? (firstPositions accounts) id = accounts.findIdx? (·.id = id) := by
  have hempty : positionIn? [] id = none := rfl
  rw [firstPositions, positionIn?_foldl, hempty, Option.none_or]
  simp

/-- Where the table has no position for an id, none of the accounts has that id. -/
theorem getD_positionIn?_firstPositions (accounts : List Account) (id : Text) :
    (positionIn? (firstPositions accounts) id).getD accounts.length = position accounts id := by
  rw [positionIn?_firstPositions, position, List.findIdx_eq_getD_findIdx?]

end Remit.Account
