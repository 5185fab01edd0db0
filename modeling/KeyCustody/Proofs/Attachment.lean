import KeyCustody.Proofs.Precedence
import KeyCustody.Published

namespace KeyCustody

section Walk
variable {ι α : Type} (before : ι → α) (attach : ι → Except Failure α)

theorem attachEach_complete_iff (items : List ι) (results : List α) :
    attachEach before attach items = ⟨results, none⟩ ↔
      List.Forall₂ (fun item result => attach item = .ok result) items results := by
  induction items generalizing results with
  | nil => simp [attachEach, eq_comm]
  | cons item rest ih =>
    simp only [List.forall₂_cons_left_iff, ← ih]
    cases here : attach item with
    | error failure => simp [attachEach, here]
    | ok record =>
      rcases there : attachEach before attach rest with ⟨others, failure⟩
      simp [attachEach, here, there, eq_comm, and_comm]

theorem attachEach_failure_iff (items : List ι) (failure : Failure) :
    (attachEach before attach items).failure = some failure ↔
      FirstFailing (fun item failure => attach item = .error failure) items failure := by
  induction items with
  | nil => simp [attachEach, not_firstFailing_nil]
  | cons item rest ih =>
    simp only [attachEach, firstFailing_cons_iff, ← ih]
    cases attach item <;> simp

theorem attachEach_cons_failed_iff (item : ι) (rest : List ι) (after : List α)
    (failure : Failure) :
    attachEach before attach (item :: rest) = ⟨after, some failure⟩ ↔
      attach item = .error failure ∧ after = (item :: rest).map before ∨
      ∃ record others, attach item = .ok record ∧
        attachEach before attach rest = ⟨others, some failure⟩ ∧ after = record :: others := by
  cases here : attach item with
  | error found => simp [attachEach, here, eq_comm, and_comm]
  | ok record =>
    rcases there : attachEach before attach rest with ⟨others, found⟩
    simp [attachEach, here, there, eq_comm, and_comm]

end Walk

section Settling
variable {α : Type} (attached : Attachment α)

def settled : Attachment α → Except Failure (List α)
  | ⟨_, some failure⟩ => .error failure
  | ⟨records, none⟩ => .ok records

theorem settled_ok_iff (results : List α) :
    settled attached = .ok results ↔ attached = ⟨results, none⟩ := by
  rcases attached with ⟨records, failure⟩
  cases failure <;> simp [settled]

theorem settled_error_iff (failure : Failure) :
    settled attached = .error failure ↔ attached.failure = some failure := by
  rcases attached with ⟨records, found⟩
  cases found <;> simp [settled]

end Settling

end KeyCustody
