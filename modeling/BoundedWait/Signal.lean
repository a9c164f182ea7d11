import BoundedWait.Duration.Sleep

/-!
# Cancellation signals

A signal fires once and stays fired.  Handles are clones of a signal; tokens
are children of a signal or of another token.  A token is cancelled by itself
or by its parent, never the other way round.

A board numbers handles and tokens in the order in which they are made, and
keeps a clock for the signals that are to fire after a while.
-/

namespace BoundedWait
namespace Signal

/-- What a token is a child of. -/
inductive Parent
  | signal (id : Nat)
  | token (id : Nat)
deriving DecidableEq, Repr

/-- A token, and whether it was cancelled itself. -/
structure Token where
  parent : Parent
  cancelled : Bool
deriving DecidableEq, Repr

/-- The signals, handles and tokens made so far. -/
structure Board where
  /-- Whether each signal has fired. -/
  fired : List Bool
  /-- The signal of each handle. -/
  handles : List Nat
  tokens : List Token
  /-- The time since the board was made, in nanoseconds. -/
  now : Nat
  /-- Which signals will be fired, and when. -/
  due : List (Nat × Nat)
deriving DecidableEq, Repr

/-- The time to which sleeps on a board are rounded up: a millisecond. -/
def grain : Nat := 1000000

namespace Board

/-- One signal that has not fired, with one handle. -/
def single : Board := ⟨[false], [0], [], 0, []⟩

/-- The signal of a handle. -/
def signalOf (b : Board) (handle : Nat) : Nat :=
  b.handles.getD handle 0

/-- Whether a signal has fired. -/
def hasFired (b : Board) (id : Nat) : Bool :=
  b.fired.getD id false

/-- Whether the signal of a handle has fired. -/
def isCancelled (b : Board) (handle : Nat) : Bool :=
  b.hasFired (b.signalOf handle)

/-- For each token, whether it is cancelled by itself or by its parent; a
parent stands before its children. -/
def tokenStates (b : Board) : List Bool :=
  b.tokens.foldl
    (fun states t =>
      let inherited :=
        match t.parent with
        | .signal id => b.hasFired id
        | .token id => states.getD id false
      states ++ [t.cancelled || inherited])
    []

/-- Whether a token is cancelled. -/
def tokenIsCancelled (b : Board) (token : Nat) : Bool :=
  b.tokenStates.getD token false

/-- For each handle, whether its signal has fired. -/
def handleStates (b : Board) : List Bool :=
  b.handles.map b.hasFired

/-- A new signal with a handle of its own. -/
def addSignal (b : Board) : Board :=
  { b with fired := b.fired ++ [false], handles := b.handles ++ [b.fired.length] }

/-- A further handle of the same signal. -/
def clone (b : Board) (handle : Nat) : Board :=
  { b with handles := b.handles ++ [b.signalOf handle] }

/-- Fires a signal. -/
def fire (b : Board) (id : Nat) : Board :=
  { b with fired := b.fired.set id true }

/-- Fires the signal of a handle. -/
def cancel (b : Board) (handle : Nat) : Board :=
  b.fire (b.signalOf handle)

/-- A new token. -/
def addToken (b : Board) (parent : Parent) : Board :=
  { b with tokens := b.tokens ++ [⟨parent, false⟩] }

/-- Cancels a token by itself. -/
def cancelToken (b : Board) (token : Nat) : Board :=
  { b with tokens := b.tokens.modify token fun t => { t with cancelled := true } }

/-- When a sleep ends that begins now. -/
def wakeTime (b : Board) (d : Duration) : Nat :=
  d.wakeTime grain b.now

/-- Moves on to a moment, firing the signals that were due. -/
def moveTo (b : Board) (moment : Nat) : Board :=
  let rung := b.due.filter (·.1 ≤ moment)
  let b := { b with now := moment, due := b.due.filter (moment < ·.1) }
  rung.foldl (fun b alarm => b.fire alarm.2) b

/-- Has a signal fire after a while; at once if no time passes until then. -/
def fireAfter (b : Board) (id : Nat) (d : Duration) : Board :=
  { b with due := (b.wakeTime d, id) :: b.due }.moveTo b.now

/-- When a signal will fire, if that is set up. -/
def firingOf? (b : Board) (id : Nat) : Option Nat :=
  ((b.due.filter (·.2 == id)).map Prod.fst).min?

end Board

/-- What can be done with handles and tokens. -/
inductive Command
  | new
  | clone (handle : Nat)
  | cancel (handle : Nat)
  | isCancelled (handle : Nat)
  | describe (handle : Nat)
  | childToken (handle : Nat)
  | tokenChild (token : Nat)
  | tokenCancel (token : Nat)
  | tokenIsCancelled (token : Nat)
  /-- Blocks the thread, which stops the clock of the board. -/
  | sleepBlocking (handle : Nat) (d : Duration)
  | sleep (handle : Nat) (d : Duration)
  | cancelAfter (handle : Nat) (d : Duration)
  /-- Sleeps until the signal fires. -/
  | untilCancelled (handle : Nat)
deriving DecidableEq

/-- What a command answers. -/
inductive Reply
  | done
  | truth (b : Bool)
  | text (s : String)
  | resolved
deriving DecidableEq

/-- The text of a signal. -/
def describe (fired : Bool) : String :=
  "CancellationSignal \x7b cancelled: " ++ (if fired then "true" else "false") ++ " \x7d"

/-- Carries out a command. -/
def Board.perform (b : Board) : Command → Board × Reply
  | .new => (b.addSignal, .done)
  | .clone h => (b.clone h, .done)
  | .cancel h => (b.cancel h, .done)
  | .isCancelled h => (b, .truth (b.isCancelled h))
  | .describe h => (b, .text (Signal.describe (b.isCancelled h)))
  | .childToken h => (b.addToken (.signal (b.signalOf h)), .done)
  | .tokenChild t => (b.addToken (.token t), .done)
  | .tokenCancel t => (b.cancelToken t, .done)
  | .tokenIsCancelled t => (b, .truth (b.tokenIsCancelled t))
  | .sleepBlocking h _ => (b, .truth (b.isCancelled h))
  | .sleep h d =>
    if b.isCancelled h then (b, .truth true)
    else
      let ends := b.wakeTime d
      let b := b.moveTo (min ends ((b.firingOf? (b.signalOf h)).getD ends))
      (b, .truth (b.isCancelled h))
  | .cancelAfter h d => (b.fireAfter (b.signalOf h) d, .done)
  | .untilCancelled h =>
    if b.isCancelled h then (b, .resolved)
    else (b.moveTo ((b.firingOf? (b.signalOf h)).getD b.now), .resolved)

end Signal
end BoundedWait
