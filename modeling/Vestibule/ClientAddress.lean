import Vestibule.Text.Blank
import Vestibule.Web.Header
import Vestibule.Web.HostPort

/-!
The address a request comes from.

A forwarding proxy names the client first in `X-Forwarded-For`; a single proxy may name it in
`X-Real-IP`; otherwise the connection's peer address is used, without its port when it has one.
-/

namespace Vestibule

/-- The client address of a request with headers `h` from peer `peer`. -/
def clientAddress (h : Web.Headers) (peer : String) : String :=
  let forwarded := h.get "X-Forwarded-For"
  if !forwarded.isEmpty then Text.trim ((forwarded.splitOn ",").headD "")
  else
    let real := Text.trim (h.get "X-Real-IP")
    if !real.isEmpty then real
    else if peer.isEmpty then "unknown"
    else match Web.splitHostPort peer with
      | some (host, _) => host
      | none => peer

end Vestibule
