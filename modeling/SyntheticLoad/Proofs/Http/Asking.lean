import SyntheticLoad.Http.Network

/-!
# Asking a network

An exchange sends at most one request. What comes back for it, the answer or the fault, is all
that the exchange learns (`Exchange.run_ofRequest`), and all that can come back is said by
`Hears`. What a network is asked is seen by keeping a log beside its state: the log grows by the
request that is made, if there is one, and by nothing else (`Network.ask_logged`).
-/

namespace SyntheticLoad.Http

/-- What comes back for a request that may be impossible to make, and the network after it. -/
def Network.ask {ν : Type} (network : Network ν) (state : ν) :
    Except ExchangeFault Request → Except ExchangeFault Response × ν
  | .error fault => (.error fault, state)
  | .ok request =>
    match network.answer request state with
    | (none, state) => (.error (.unanswered request.url), state)
    | (some response, state) => (.ok response, state)

/-- What may come back for a request: nothing but the fault if there is none. -/
inductive Hears : Except ExchangeFault Request → Except ExchangeFault Response → Prop
  | unmade (fault : ExchangeFault) : Hears (.error fault) (.error fault)
  | unanswered (request : Request) : Hears (.ok request) (.error (.unanswered request.url))
  | answered (request : Request) (response : Response) : Hears (.ok request) (.ok response)

/-- A network that keeps a log of the requests, in order. -/
def Network.logged {ν : Type} (network : Network ν) : Network (ν × List Request) where
  answer request state :=
    let (response, after) := network.answer request state.1
    (response, after, state.2 ++ [request])

section

variable {ν α β : Type} (network : Network ν) (state : ν)

theorem Network.hears_ask (request : Except ExchangeFault Request) :
    Hears request (network.ask state request).1 := by
  cases request with
  | error fault => exact .unmade fault
  | ok request =>
    rw [Network.ask]
    rcases network.answer request state with ⟨_ | response, after⟩
    · exact .unanswered request
    · exact .answered request response

/-- An exchange for a request concludes from what comes back for it. -/
theorem Exchange.run_ofRequest (request : Except ExchangeFault Request)
    (conclude : Except ExchangeFault Response → α) :
    (Exchange.ofRequest request conclude).run network state =
      (conclude (network.ask state request).1, (network.ask state request).2) := by
  cases request with
  | error fault => rfl
  | ok request =>
    rw [Exchange.ofRequest, Exchange.run, Network.ask]
    rcases network.answer request state with ⟨_ | response, after⟩ <;> rfl

theorem Exchange.run_map (f : α → β) (exchange : Exchange α) :
    (exchange.map f).run network state =
      (f (exchange.run network state).1, (exchange.run network state).2) := by
  cases exchange with
  | nothing a => rfl
  | ask request conclude =>
    rw [Exchange.map, Exchange.run, Exchange.run]
    rcases network.answer request state with ⟨_ | response, after⟩ <;> rfl

theorem Network.answer_logged (request : Request) (log : List Request) :
    network.logged.answer request (state, log) = ((network.answer request state).1,
      (network.answer request state).2, log ++ [request]) := rfl

/-- A log is kept of the request, if there is one, and nothing else changes. -/
theorem Network.ask_logged (request : Except ExchangeFault Request) (log : List Request) :
    network.logged.ask (state, log) request = ((network.ask state request).1,
      (network.ask state request).2, log ++ request.toOption.toList) := by
  cases request with
  | error fault => exact congrArg (fun l => (_, _, l)) (List.append_nil log).symm
  | ok request =>
    rw [Network.ask, Network.ask, Network.answer_logged]
    rcases network.answer request state with ⟨_ | response, after⟩ <;> rfl

theorem Exchange.run_logged (exchange : Exchange α) (log : List Request) :
    (exchange.run network.logged (state, log)).1 = (exchange.run network state).1 := by
  cases exchange with
  | nothing a => rfl
  | ask request conclude =>
    rw [Exchange.run, Exchange.run, Network.answer_logged]

end

end SyntheticLoad.Http
