import Mathlib.Data.List.Basic

/-!
# Reading from a queue of records

What a reader may expect of a queue of non-empty records.  A request for data
is answered from the front of the first record and never beyond its end; a
request for a record is answered with as much of the first record as fits,
and the rest of that record is discarded.  Whatever is asked, every item of
the queue is delivered or discarded once and in order.
-/

universe u

namespace RecordQueue

inductive Request where
  | data (limit : Nat)
  | record (limit : Nat)
  deriving DecidableEq, Repr

def Request.limit : Request → Nat
  | .data limit => limit
  | .record limit => limit

variable {β : Type u}

structure Answer (β : Type u) where
  delivered : List β
  discarded : List β

/-- The answers a queue may give, and the queue after them. -/
inductive Answers :
    List (List β) → Request → Answer β → List (List β) → Prop
  | nothing (limit : Nat) : Answers [] (.data limit) ⟨[], []⟩ []
  | part (limit count : Nat) (record : List β) (records : List (List β)) :
      0 < count → count ≤ limit → count < record.length →
        Answers (record :: records) (.data limit)
          ⟨record.take count, []⟩ (record.drop count :: records)
  | whole (limit : Nat) (record : List β) (records : List (List β)) :
      record ≠ [] → record.length ≤ limit →
        Answers (record :: records) (.data limit) ⟨record, []⟩ records
  | noRecord (limit : Nat) : Answers [] (.record limit) ⟨[], []⟩ []
  | record (limit : Nat) (record : List β) (records : List (List β)) :
      Answers (record :: records) (.record limit)
        ⟨record.take limit, record.drop limit⟩ records

variable {records rest : List (List β)} {request : Request}
  {answer : Answer β}

theorem Answers.conserves
    (answers : Answers records request answer rest) :
    records.flatten =
      answer.delivered ++ answer.discarded ++ rest.flatten := by
  cases answers with
  | nothing =>
      rfl
  | part limit count record records =>
      simp only [List.flatten_cons, List.append_nil]
      rw [← List.append_assoc, List.take_append_drop]
  | whole limit record records =>
      simp only [List.flatten_cons, List.append_nil]
  | noRecord =>
      rfl
  | record limit record records =>
      simp only [List.flatten_cons]
      rw [List.take_append_drop]

/-- A request for data that delivers a whole record takes exactly that
record. -/
theorem Answers.of_data_cons
    {limit : Nat} {record : List β}
    (answers : Answers (record :: records) (.data limit) answer rest)
    (length : answer.delivered.length = record.length) :
    answer.delivered = record ∧ rest = records := by
  cases answers with
  | part limit count record records _ _ short =>
      simp only [List.length_take] at length
      omega
  | whole =>
      exact ⟨rfl, rfl⟩

theorem Answers.of_record_cons
    {limit : Nat} {record : List β}
    (answers : Answers (record :: records) (.record limit) answer rest) :
    answer.delivered = record.take limit ∧ rest = records := by
  cases answers with
  | record =>
      exact ⟨rfl, rfl⟩

/-- Something is delivered when data is asked for and available. -/
theorem Answers.delivered_ne_nil
    {limit : Nat} {record : List β}
    (answers : Answers (record :: records) (.data limit) answer rest) :
    answer.delivered ≠ [] := by
  cases answers with
  | part limit count record records positive _ short =>
      intro empty
      have length := congrArg List.length empty
      simp only [List.length_take, List.length_nil] at length
      omega
  | whole limit record records nonempty =>
      exact nonempty

end RecordQueue
