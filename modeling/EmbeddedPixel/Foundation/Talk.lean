import Mathlib.Data.List.Basic
import Mathlib.Tactic.Common

/-!
# Programs at one end of a connection

A `Talk ε α` sends messages and receives exact numbers of bytes; a receive that the other end does
not satisfy gives `none`.  It ends with a value or is stopped by an `ε`.  `Talk.run` runs it against
the bytes the other end sends before it closes.

`run_bind` composes two programs.
-/

set_option autoImplicit false

namespace Foundation

inductive Talk (ε α : Type) where
  | ret (a : α)
  | stop (e : ε)
  | sendall (data : List UInt8) (k : Talk ε α)
  | recvExact (count : Nat) (k : Option (List UInt8) → Talk ε α)

/-- How a program ended: what it sent, its result, and the incoming bytes it has not read. -/
structure Talked (ε α : Type) where
  sent : List (List UInt8)
  result : Except ε α
  unread : List UInt8

namespace Talk

variable {ε α β : Type}

def bind : Talk ε α → (α → Talk ε β) → Talk ε β
  | .ret a, f => f a
  | .stop e, _ => .stop e
  | .sendall data k, f => .sendall data (k.bind f)
  | .recvExact count k, f => .recvExact count fun data => (k data).bind f

instance : Monad (Talk ε) where
  pure := .ret
  bind := Talk.bind

/-- Sends a message. -/
def send (data : List UInt8) : Talk ε Unit := .sendall data (.ret ())

/-- Receives `count` bytes. -/
def receive (count : Nat) : Talk ε (Option (List UInt8)) := .recvExact count .ret

/-- A value, or the end of the program. -/
def ofOption (e : ε) : Option α → Talk ε α
  | some a => .ret a
  | none => .stop e

def ofExcept : Except ε α → Talk ε α
  | .ok a => .ret a
  | .error e => .stop e

def run : Talk ε α → (incoming : List UInt8) → Talked ε α
  | .ret a, incoming => ⟨[], .ok a, incoming⟩
  | .stop e, incoming => ⟨[], .error e, incoming⟩
  | .sendall data k, incoming =>
    let o := k.run incoming
    ⟨data :: o.sent, o.result, o.unread⟩
  | .recvExact count k, incoming =>
    if count ≤ incoming.length then (k (some (incoming.take count))).run (incoming.drop count)
    else (k none).run []

@[simp] theorem run_pure (a : α) (incoming : List UInt8) :
    (pure a : Talk ε α).run incoming = ⟨[], .ok a, incoming⟩ := rfl

@[simp] theorem ofOption_some_bind (e : ε) (a : α) (f : α → Talk ε β) :
    (ofOption e (some a) >>= f) = f a := rfl

@[simp] theorem ofExcept_ok_bind (a : α) (f : α → Talk ε β) :
    (ofExcept (.ok a) >>= f) = f a := rfl

@[simp] theorem run_send (data : List UInt8) (incoming : List UInt8) :
    (send data : Talk ε Unit).run incoming = ⟨[data], .ok (), incoming⟩ := rfl

/-- A receive that the next bytes satisfy. -/
theorem run_receive_append (data more : List UInt8) :
    (receive data.length : Talk ε _).run (data ++ more) = ⟨[], .ok (some data), more⟩ := by
  unfold receive run
  rw [if_pos (by simp), List.take_left' rfl, List.drop_left' rfl]
  rfl

/-- **Sequencing.** -/
theorem run_bind (x : Talk ε α) (f : α → Talk ε β) (incoming : List UInt8) :
    (x >>= f).run incoming =
      match (x.run incoming).result with
      | .error e => ⟨(x.run incoming).sent, .error e, (x.run incoming).unread⟩
      | .ok a =>
        ⟨(x.run incoming).sent ++ ((f a).run (x.run incoming).unread).sent,
          ((f a).run (x.run incoming).unread).result,
          ((f a).run (x.run incoming).unread).unread⟩ := by
  show (x.bind f).run incoming = _
  induction x generalizing incoming with
  | ret a => rfl
  | stop e => rfl
  | sendall data k ih =>
      simp only [bind, run, ih]
      split
      · rfl
      · rfl
  | recvExact count k ih =>
      simp only [bind, run]
      split
      · exact ih _ _
      · exact ih _ _

/-- What a program has sent stays sent. -/
theorem sent_bind (x : Talk ε α) (f : α → Talk ε β) (incoming : List UInt8) :
    (x.run incoming).sent <+: ((x >>= f).run incoming).sent := by
  rw [run_bind]
  split
  · exact List.prefix_refl _
  · exact List.prefix_append _ _

end Talk

end Foundation
