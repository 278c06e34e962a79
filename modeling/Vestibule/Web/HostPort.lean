/-!
Splitting an address into its host and its port.

The port follows the last colon. A host in square brackets must close its bracket right before
that colon and hold no other bracket; a host without brackets holds no colon, and no bracket
may appear anywhere in the address.
-/

namespace Vestibule.Web

/-- Splits `host:port` or `[host]:port`; none when the text is not of that form. -/
def splitHostPort (s : String) : Option (String × String) :=
  let cs := s.toList
  match cs.reverse.findIdx? (· == ':') with
  | none => none
  | some fromEnd =>
    let i := cs.length - 1 - fromEnd
    let port := String.ofList (cs.drop (i + 1))
    if cs.head? == some '[' then
      match cs.findIdx? (· == ']') with
      | none => none
      | some e =>
        if e + 1 == i then
          let rest1 := cs.drop 1
          let rest2 := cs.drop (e + 1)
          if rest1.contains '[' || rest2.contains ']' then none
          else some (String.ofList ((cs.take e).drop 1), port)
        else none
    else
      let host := cs.take i
      if host.contains ':' || cs.contains '[' || cs.contains ']' then none
      else some (String.ofList host, port)

theorem splitHostPort_noColon (s : String) (h : s.toList.reverse.findIdx? (· == ':') = none) :
    splitHostPort s = none := by
  simp [splitHostPort, h]

end Vestibule.Web
