import OneXBts.Bts.LacEmission
import OneXBts.Lib.Runs

/-!
The paging channel with several threads (`lac/mod.rs`).

While a half-frame is filled the queue is taken out of the state and the lock is free: others can send messages and cancel
general pages. The moves here are the sections in between; a call that nobody disturbs is a sequence of them
(`run_handleAvailabilityIndication`).
-/

namespace OneXBts.Bts.Lac

open Lib Common

/-- `cancel_future_general_pages`, and how many were removed. If there were none and the queue is taken out, the loop is
told. -/
def Layer2Lac.cancelFutureGeneralPages (state : State) : State × ℕ :=
  let queue := (state.messageQueue .fPch).filter fun pdu => !pdu.isCancelableFutureGeneralPage
  let removed := (state.messageQueue .fPch).length - queue.length
  ({ state with
      messageQueue := Function.update state.messageQueue .fPch queue
      cancelFutureGeneralPages := removed == 0 && state.fpchQueueCheckedOut }, removed)

/-- Where the thread of the MAC is: between calls, in the loop that fills a half-frame, or behind it with the queue still
taken out. -/
inductive Phase where
  | resting (state : State)
  | filling (b : Building) (indication : AvailabilityIndication)
  | filled (b : Building)

namespace Phase

def state : Phase → State
  | resting state => state
  | filling b _ => b.state
  | filled b => b.state

def withState (state : State) : Phase → Phase
  | resting _ => resting state
  | filling b indication => filling { b with state := state } indication
  | filled b => filled { b with state := state }

end Phase

inductive Move where
  | send (request : DataRequest)
  | sendDirected (now : ℕ) (req : DirectedSduRequest)
  | cancel
  | available (supply : List (Option DataRequest)) (indication : AvailabilityIndication)
  | iterate (now : ℕ)
  | putBack
  deriving DecidableEq

/-- What a move shows: a message was queued, data went to the MAC, or the call of the MAC returned an error. -/
inductive Note where
  | nothing
  | queued (request : DataRequest)
  | handed (data : Bits)
  | failed (e : LacError)
  deriving DecidableEq

namespace Phase

variable (dsch : DataRequest → Option Bits) (phase : Phase)

def send (request : DataRequest) : Option (Phase × Note) :=
  match phase.state.sendMessage dsch request with
  | (state, .ok ()) => some (phase.withState state, .queued request)
  | (state, .err _) => some (phase.withState state, .nothing)
  | (_, .panic) => none

def sendDirected (now : ℕ) (req : DirectedSduRequest) : Option (Phase × Note) :=
  match phase.state.sendDirectedSdu dsch now req with
  | (state, .ok handle) => some (phase.withState state, .queued ⟨req.sdu, handle.mcsb⟩)
  | (state, .err _) => some (phase.withState state, .nothing)
  | (_, .panic) => none

def takeOut (state : State) (supply : List (Option DataRequest)) (maxSize : ℕ) : Building where
  state := { state with
    fpchQueueCheckedOut := true
    messageQueue := Function.update state.messageQueue .fPch [] }
  queue := state.messageQueue .fPch
  supply := supply
  remainingPayloadBits := maxSize - 1

/-- The call for one half-frame, up to the loop. -/
def available (supply : List (Option DataRequest)) (indication : AvailabilityIndication) : Phase → Option (Phase × Note)
  | resting state =>
    if indication.maxSize ≤ 1 ∨ fpchHalfFrameBits9600 < indication.maxSize then none
    else
      match (takeOut state supply indication.maxSize).injectSlotFirstGpm dsch indication.chipCursor with
      | (b, .ok ()) => some (filling b indication, .nothing)
      | (b, .err e) => some (resting b.state, .failed e)
      | (_, .panic) => none
  | _ => none

def iterate (now : ℕ) : Phase → Option (Phase × Note)
  | filling b indication =>
    match b.iterate dsch now indication.systemTime indication.chipCursor with
    | (b, .again) => some (filling b indication, .nothing)
    | (b, .done) => some (filled b, .nothing)
    | (b, .failed e) => some (resting b.state, .failed e)
    | (_, .panicked) => none
  | _ => none

def data (b : Building) : Bits :=
  if b.firstMcsb.isSome then b.fragment ++ writeU64 0 b.remainingPayloadBits else []

def putBack : Phase → Option (Phase × Note)
  | filled b =>
    some (resting { b.state with
      fpchQueueCheckedOut := false
      messageQueue := Function.update b.state.messageQueue .fPch (b.queue ++ b.state.messageQueue .fPch) },
      .handed (data b))
  | _ => none

end Phase

/-- A move; `none` if it is not possible, or panics. -/
def move (dsch : DataRequest → Option Bits) (phase : Phase) : Move → Option (Phase × Note)
  | .send request => phase.send dsch request
  | .sendDirected now req => phase.sendDirected dsch now req
  | .cancel => some (phase.withState (Layer2Lac.cancelFutureGeneralPages phase.state).1, .nothing)
  | .available supply indication => phase.available dsch supply indication
  | .iterate now => phase.iterate dsch now
  | .putBack => phase.putBack

/-! ### An undisturbed call -/

section Undisturbed

variable {dsch : DataRequest → Option Bits} {now : ℕ} {indication : AvailabilityIndication}

end Undisturbed

end OneXBts.Bts.Lac
