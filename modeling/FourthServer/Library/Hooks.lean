import FourthServer.Library.Transducer
import Mathlib.Data.List.Induction

/-!
# Two transformers behind one holder

A party that transforms what it sends and what it receives keeps the states of
both transformers in one holder, hands the holder to every call and keeps what
the call gives back.  `Chained` says that a list of calls passes the holder on
in this way.  If moreover the calls obey a pair of transformers on separate
states, the messages sent are the transform of the sending inputs alone and
those received of the receiving inputs alone, however the calls interleave
(`sending_outputs`, `receiving_outputs`).
-/

namespace Hooks

open Transducer

variable {P Snd Rcv α : Type*}

/-- A call of one of the two transformers. -/
structure Call (P α : Type*) where
  /-- The call is for a message about to be sent. -/
  sending : Bool
  before : P
  input : α
  after : P
  output : α

/-- The calls pass the holder on, starting from `holder`. -/
def Chained : P → List (Call P α) → Prop
  | _, [] => True
  | holder, call :: rest => call.before = holder ∧ Chained call.after rest

/-- The holder after the calls. -/
def last (holder : P) (calls : List (Call P α)) : P :=
  calls.foldl (fun _ call => call.after) holder

@[simp] theorem last_nil (holder : P) : last holder ([] : List (Call P α)) = holder := rfl

@[simp] theorem last_snoc (holder : P) (calls : List (Call P α)) (call : Call P α) :
    last holder (calls ++ [call]) = call.after := by
  simp [last]

theorem chained_snoc {holder : P} {calls : List (Call P α)} {call : Call P α} :
    Chained holder (calls ++ [call]) ↔
      Chained holder calls ∧ call.before = last holder calls := by
  induction calls generalizing holder with
  | nil => simp [Chained]
  | cons first rest ih =>
      simp only [List.cons_append, Chained, ih, and_assoc]
      rfl

/-- The inputs of the calls for messages sent. -/
def sent (calls : List (Call P α)) : List α := (calls.filter Call.sending).map Call.input

/-- The outputs of the calls for messages sent. -/
def sentOutputs (calls : List (Call P α)) : List α :=
  (calls.filter Call.sending).map Call.output

/-- The inputs of the calls for messages received. -/
def received (calls : List (Call P α)) : List α :=
  (calls.filter fun call => !call.sending).map Call.input

/-- The outputs of the calls for messages received. -/
def receivedOutputs (calls : List (Call P α)) : List α :=
  (calls.filter fun call => !call.sending).map Call.output

section Append

variable (first second : List (Call P α)) (call : Call P α)

@[simp] theorem sent_nil : sent ([] : List (Call P α)) = [] := rfl

@[simp] theorem sentOutputs_nil : sentOutputs ([] : List (Call P α)) = [] := rfl

@[simp] theorem received_nil : received ([] : List (Call P α)) = [] := rfl

@[simp] theorem receivedOutputs_nil : receivedOutputs ([] : List (Call P α)) = [] := rfl

@[simp] theorem sent_append : sent (first ++ second) = sent first ++ sent second := by
  simp [sent]

@[simp] theorem sentOutputs_append :
    sentOutputs (first ++ second) = sentOutputs first ++ sentOutputs second := by
  simp [sentOutputs]

@[simp] theorem received_append :
    received (first ++ second) = received first ++ received second := by
  simp [received]

@[simp] theorem receivedOutputs_append :
    receivedOutputs (first ++ second) = receivedOutputs first ++ receivedOutputs second := by
  simp [receivedOutputs]

@[simp] theorem sent_singleton : sent [call] = if call.sending then [call.input] else [] := by
  cases h : call.sending <;> simp [sent, h]

@[simp] theorem sentOutputs_singleton :
    sentOutputs [call] = if call.sending then [call.output] else [] := by
  cases h : call.sending <;> simp [sentOutputs, h]

@[simp] theorem received_singleton :
    received [call] = if call.sending then [] else [call.input] := by
  cases h : call.sending <;> simp [received, h]

@[simp] theorem receivedOutputs_singleton :
    receivedOutputs [call] = if call.sending then [] else [call.output] := by
  cases h : call.sending <;> simp [receivedOutputs, h]

@[simp] theorem length_sentOutputs : (sentOutputs first).length = (sent first).length := by
  simp [sentOutputs, sent]

@[simp] theorem length_receivedOutputs :
    (receivedOutputs first).length = (received first).length := by
  simp [receivedOutputs, received]

end Append

/-- A pair of transformers with separate states. -/
structure Pair (Snd Rcv α : Type*) where
  post : Snd → α → Snd × α
  pre : Rcv → α → Rcv × α

namespace Pair

variable (T : Pair Snd Rcv α)

/-- What a call must give back. -/
def answer (sending : Bool) (holder : Snd × Rcv) (input : α) : (Snd × Rcv) × α :=
  if sending then (((T.post holder.1 input).1, holder.2), (T.post holder.1 input).2)
  else ((holder.1, (T.pre holder.2 input).1), (T.pre holder.2 input).2)

/-- The call gave back what the transformers say. -/
def Obeyed (call : Call (Snd × Rcv) α) : Prop :=
  (call.after, call.output) = T.answer call.sending call.before call.input

end Pair

/-- The pair that changes nothing. -/
def plain (α : Type*) : Pair Unit Unit α where
  post _ a := ((), a)
  pre _ a := ((), a)

theorem inverts_plain : Inverts (plain α).post () (plain α).pre () := by
  intro input
  show transduce (fun _ a => ((), a)) () (transduce (fun _ a => ((), a)) () input) = input
  rw [transduce_same, transduce_same]

/-- What a chain of obedient calls comes to. -/
structure Separated (T : Pair Snd Rcv α) (holder : Snd × Rcv)
    (calls : List (Call (Snd × Rcv) α)) : Prop where
  sending_outputs : sentOutputs calls = transduce T.post holder.1 (sent calls)
  receiving_outputs : receivedOutputs calls = transduce T.pre holder.2 (received calls)
  holder_eq : last holder calls =
    (after T.post holder.1 (sent calls), after T.pre holder.2 (received calls))

theorem separated {T : Pair Snd Rcv α} {holder : Snd × Rcv}
    {calls : List (Call (Snd × Rcv) α)} (hchain : Chained holder calls)
    (hobeyed : ∀ call ∈ calls, T.Obeyed call) : Separated T holder calls := by
  induction calls using List.reverseRecOn with
  | nil => exact ⟨rfl, rfl, rfl⟩
  | append_singleton calls call ih =>
      obtain ⟨hchain, hbefore⟩ := chained_snoc.mp hchain
      have hcalls := ih hchain fun other hother => hobeyed other (by simp [hother])
      have hcall : T.Obeyed call := hobeyed call (by simp)
      obtain ⟨sending, before, input, next, output⟩ := call
      subst hbefore
      rw [Pair.Obeyed, Pair.answer, hcalls.holder_eq] at hcall
      cases sending with
      | true =>
          simp only [if_true, Prod.mk.injEq] at hcall
          obtain ⟨rfl, rfl⟩ := hcall
          refine ⟨?_, ?_, ?_⟩
          · simpa [transduce_snoc] using hcalls.sending_outputs
          · simpa using hcalls.receiving_outputs
          · simp
      | false =>
          simp only [Bool.false_eq_true, if_false, Prod.mk.injEq] at hcall
          obtain ⟨rfl, rfl⟩ := hcall
          refine ⟨?_, ?_, ?_⟩
          · simpa using hcalls.sending_outputs
          · simpa [transduce_snoc] using hcalls.receiving_outputs
          · simp

end Hooks
