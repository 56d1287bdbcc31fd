import Remit.Request
import Remit.Service.Body

/-!
# Requests as JSON values

`Request.toJson` writes a request as a JSON value, and `Request.ofJson_toJson` says that this value
is taken for the same request. So every request can be sent, with whatever accounts and text.

A value that passes a check is made of values that pass: `Checked.member_eq_ok` and
`Checked.items_eq_ok` find them among the members of an object and the items of a list.
-/

namespace Remit

/-! ## Values that pass a check -/

namespace Checked

variable {α β : Type}

theorem both_eq_ok {x : Checked α} {y : Checked β} {a : α} {b : β}
    (h : both x y = .ok (a, b)) : x = .ok a ∧ y = .ok b := by
  cases x <;> cases y <;> cases h
  exact ⟨rfl, rfl⟩

theorem mapError_eq_ok {x : Checked α} {f : List ShapeFault → List ShapeFault} {a : α}
    (h : x.mapError f = .ok a) : x = .ok a := by
  cases x <;> cases h
  rfl

theorem map_eq_ok {x : Checked α} {f : α → β} {b : β} (h : x.map f = .ok b) :
    ∃ a, x = .ok a ∧ f a = b := by
  cases x <;> cases h
  exact ⟨_, rfl, rfl⟩

/-- A member that passes its check is there. -/
theorem member_eq_ok {members : List (Text × Json)} {name : String} {check : Json → Checked α}
    {a : α} (h : member members name check = .ok a) :
    ∃ entry ∈ members, check entry.2 = .ok a := by
  unfold member at h
  split at h
  · cases h
  · next value hvalue =>
    obtain ⟨entry, hfind, rfl⟩ := Option.map_eq_some_iff.1 hvalue
    exact ⟨entry, List.mem_reverse.1 (List.mem_of_find?_eq_some hfind), mapError_eq_ok h⟩

/-- Each item of a list that passes is one that passes. -/
theorem items_eq_ok {check : Json → Checked α} {index : Nat} {items : List Json} {found : List α}
    (h : Checked.items check index items = .ok found) :
    ∀ a ∈ found, ∃ item ∈ items, check item = .ok a := by
  induction items generalizing index found with
  | nil =>
    cases h
    exact fun a ha => by cases ha
  | cons item items ih =>
    obtain ⟨⟨first, others⟩, hboth, rfl⟩ := map_eq_ok h
    obtain ⟨hfirst, hothers⟩ := both_eq_ok hboth
    intro a ha
    rcases List.mem_cons.1 ha with rfl | ha
    · exact ⟨item, List.mem_cons_self, mapError_eq_ok hfirst⟩
    · obtain ⟨other, hother, hcheck⟩ := ih hothers a ha
      exact ⟨other, List.mem_cons_of_mem _ hother, hcheck⟩

end Checked

/-! ## Written requests -/

/-- An account as it stands in a request. -/
def Account.toJson (account : Account) : Json :=
  .ofMembers [("id", .text account.id), ("balance", account.balance.toJson),
    ("currency", .text account.currency)]

/-- A request as a JSON value. -/
def Request.toJson (request : Request) : Json :=
  .ofMembers [("accounts", .list (request.accounts.map Account.toJson)),
    ("instruction", .text request.instruction)]

theorem Json.checkAccount_toJson (account : Account) :
    checkAccount account.toJson = .ok account := by
  obtain ⟨id, balance, currency⟩ := account
  cases balance with
  | whole n => rfl
  | real value => rfl

theorem Checked.items_map_toJson (accounts : List Account) (index : Nat) :
    items Json.checkAccount index (accounts.map Account.toJson) = .ok accounts := by
  induction accounts generalizing index with
  | nil => rfl
  | cons account rest ih =>
    rw [List.map_cons, items, Json.checkAccount_toJson, ih]
    rfl

/-- A request is read from the JSON value that it is written as. -/
theorem Request.ofJson_toJson (request : Request) : ofJson request.toJson = .ok request := by
  obtain ⟨accounts, instruction⟩ := request
  have haccounts : Json.checkAccounts (.list (accounts.map Account.toJson)) = .ok accounts :=
    Checked.items_map_toJson accounts 0
  show (Checked.both ((Json.checkAccounts (.list (accounts.map Account.toJson))).mapError _)
    (.ok instruction)).map _ = _
  rw [haccounts]
  rfl

end Remit
