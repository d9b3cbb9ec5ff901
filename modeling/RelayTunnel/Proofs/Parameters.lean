import RelayTunnel.Proofs.Url
import RelayTunnel.Request

/-!
# The parameters of a request to the relay

The URL of a request keeps the base of the endpoint but for its path and its query, so it is one of
a WebSocket if the base is. Whoever reads its query, in the URL or in its text, finds the parameters
that the client means and no others, whatever the base and the values hold.
-/

namespace RelayTunnel

/-- The query in the text of a URL: what stands behind the first question mark and before the number
    sign that begins a fragment. -/
def Url.queryOf (text : List Char) : List Char :=
  ((text.takeWhile (· ≠ '#')).dropWhile (· ≠ '?')).drop 1

namespace Url

/-- Neither mark stands in front of the query. -/
theorem IsSocket.front_free {url : Url} (h : url.IsSocket) :
    ∀ c ∈ url.scheme.toList ++ "://".toList ++ url.authority ++ url.pathText.toList,
      c ≠ '?' ∧ c ≠ '#' := by
  have outside {c : Char} (inner : RequestTarget.endsAuthority c = false) : c ≠ '?' ∧ c ≠ '#' := by
    constructor <;> rintro rfl <;> cases inner
  intro c member
  simp only [List.mem_append] at member
  rcases member with ((scheme | colon) | authority) | path
  · have schemes : ∀ c ∈ "ws".toList ++ "wss".toList, c ≠ '?' ∧ c ≠ '#' :=
      List.all_iff_forall_prop.mp (by decide)
    rcases h.scheme with same | same <;> rw [same] at scheme
    · exact schemes c (List.mem_append_left _ scheme)
    · exact schemes c (List.mem_append_right _ scheme)
  · have between : ∀ c ∈ "://".toList, c ≠ '?' ∧ c ≠ '#' :=
      List.all_iff_forall_prop.mp (by decide)
    exact between c colon
  · exact outside (h.authority_inner authority)
  · rcases h.pathText_mem path with rfl | safe
    · decide
    · constructor <;> rintro rfl <;> cases safe

/-- The query that is found in the text of a URL is its own one. -/
theorem IsSocket.queryOf_text {url : Url} {query : String} (h : url.IsSocket)
    (asks : url.query = some query) (free : '#' ∉ query.toList) :
    queryOf url.text.toList = query.toList := by
  obtain ⟨host, located, -⟩ := h.host
  obtain ⟨shown, -, behind⟩ := cut_tail h.front_free asks free
  rw [queryOf, toList_text located, shown, behind, List.drop_one, List.tail_cons]

end Url

namespace Endpoint

variable {e : Endpoint} {base userAgent action : String} {pairs : List (String × String)}

/-- The base of an endpoint that was accepted is a URL of a WebSocket. -/
theorem isSocket_of_parse (accepted : parse base userAgent = .ok e) :
    e.base.IsSocket ∧ e.userAgent = userAgent := by
  unfold parse at accepted
  split at accepted
  · cases accepted
  · rename_i url read
    split at accepted <;> cases accepted
    rename_i socket
    rw [Bool.or_eq_true, decide_eq_true_eq, decide_eq_true_eq] at socket
    exact ⟨Url.parse_isSocket read socket, rfl⟩

/-- The names of the two actions stand for themselves in a path. -/
theorem actions_isSafe :
    (∀ c ∈ "connect".toList, Percent.isSafe Percent.pathSet c = true) ∧
      ∀ c ∈ "reconnect".toList, Percent.isSafe Percent.pathSet c = true :=
  ⟨List.all_eq_true.mp (by decide), List.all_eq_true.mp (by decide)⟩

/-- The path of a request is the one of the base with the name of the action. -/
theorem actionUrl_path {segments : List String} (path : e.base.path = .segments segments) :
    (e.actionUrl action pairs).path = .segments (trimSegments segments ++ [action]) := by
  simp only [actionUrl, path]

/-- The URL of a request is one of a WebSocket if the base is. -/
theorem actionUrl_isSocket (socket : e.base.IsSocket)
    (safe : ∀ c ∈ action.toList, Percent.isSafe Percent.pathSet c = true) :
    (e.actionUrl action pairs).IsSocket := by
  obtain ⟨segments, path, clean⟩ := socket.path
  exact {
    scheme := socket.scheme
    username := socket.username
    password := socket.password
    host := socket.host
    path := by
      refine ⟨_, actionUrl_path path, fun segment member => ?_⟩
      rcases List.mem_append.mp member with before | last
      · refine clean segment (List.mem_reverse.mp ?_)
        exact List.dropWhile_subset _ (List.mem_reverse.mp before)
      · obtain rfl := List.mem_singleton.mp last
        exact safe }

theorem actionUrl_query :
    (e.actionUrl action pairs).query = some (String.ofList (Form.query pairs)) := rfl

/-- The query of a request carries its parameters. -/
theorem actionUrl_queryPairs : (e.actionUrl action pairs).queryPairs = pairs := by
  rw [Url.queryPairs, actionUrl_query]
  exact (congrArg Form.pairs String.toList_ofList).trans (Form.pairs_query pairs)

end Endpoint

/-! ## What a request carries -/

namespace Request

/-- The parameters of a request: whoever takes its URL apart finds them, and so does who reads the
    text of the URL; a name among them has its value, and no other name has one. -/
structure Carries (r : Request) (pairs : List (String × String)) : Prop where
  inUrl : r.url.queryPairs = pairs
  inText : Form.pairs (Url.queryOf r.url.text.toList) = pairs
  byName : ∀ pair ∈ pairs, r.queryParam? pair.1 = some pair.2
  noOther : ∀ name, (∀ pair ∈ pairs, pair.1 ≠ name) → r.queryParam? name = none

theorem find?_of_nodup {pairs : List (String × String)} {pair : String × String}
    (distinct : (pairs.map Prod.fst).Nodup) (member : pair ∈ pairs) :
    pairs.find? (fun other => other.1 = pair.1) = some pair := by
  induction pairs with
  | nil => cases member
  | cons first pairs ih =>
    obtain ⟨unlike, distinct⟩ := List.nodup_cons.mp distinct
    rcases List.mem_cons.mp member with rfl | member
    · exact List.find?_cons_of_pos (by simp)
    · have other : first.1 ≠ pair.1 := fun same => unlike (same ▸ List.mem_map_of_mem member)
      rw [List.find?_cons_of_neg (by simpa using other)]
      exact ih distinct member

/-- The request for an action of the relay carries the parameters given for it. -/
theorem authorized_carries {e : Endpoint} {action : String} {pairs : List (String × String)}
    (token : String) (socket : e.base.IsSocket)
    (safe : ∀ c ∈ action.toList, Percent.isSafe Percent.pathSet c = true)
    (distinct : (pairs.map Prod.fst).Nodup) :
    (authorized e token (e.actionUrl action pairs)).Carries pairs := by
  have found : (authorized e token (e.actionUrl action pairs)).url.queryPairs = pairs :=
    Endpoint.actionUrl_queryPairs
  have free : '#' ∉ (String.ofList (Form.query pairs)).toList := by
    rw [String.toList_ofList]
    have marks : '#' ∉ '&' :: '=' :: Form.alphabet := by decide
    exact fun member => marks (Form.query_mem member)
  have text := (Endpoint.actionUrl_isSocket socket safe).queryOf_text Endpoint.actionUrl_query free
  refine ⟨found, ?_, fun pair member => ?_, fun name missing => ?_⟩
  · exact (congrArg Form.pairs text).trans found
  · rw [queryParam?, found, find?_of_nodup distinct member, Option.map_some]
  · have none : pairs.find? (fun pair => pair.1 = name) = none :=
      List.find?_eq_none.mpr fun pair member => by simpa using missing pair member
    rw [queryParam?, found, none, Option.map_none]

/-- Both requests carry exactly what the client means, in this order and with numbers in decimal,
    whatever the base of the endpoint, the target and the name of the session are. -/
theorem authorized_parameters {base userAgent : String} {e : Endpoint}
    (accepted : Endpoint.parse base userAgent = .ok e) (t : Target) (sid : String)
    (count : UInt64) (token : String) :
    (authorized e token (e.connectUrl t)).Carries
        [ ("project", t.project), ("port", toString t.port.toNat), ("newWebsocket", "true"),
          ("zone", t.zone), ("instance", t.instanceName), ("interface", t.networkInterface) ] ∧
      (authorized e token (e.reconnectUrl t sid count)).Carries
        [ ("sid", sid), ("ack", toString count.toNat), ("newWebsocket", "true"),
          ("zone", t.zone) ] := by
  obtain ⟨socket, -⟩ := Endpoint.isSocket_of_parse accepted
  constructor
  · refine authorized_carries token socket Endpoint.actions_isSafe.1 ?_
    show ["project", "port", "newWebsocket", "zone", "instance", "interface"].Nodup
    decide
  · refine authorized_carries token socket Endpoint.actions_isSafe.2 ?_
    show ["sid", "ack", "newWebsocket", "zone"].Nodup
    decide

/-- A base with a query and a fragment, and a session whose name is meant to be taken for other
    parameters. -/
theorem authorized_parameters_hostile :
    let base := "ws://u%40:p@relay.test:9000/v4//?sid=old&x=1#end?sid=z"
    let e : Endpoint :=
      { base :=
          { scheme := "ws", username := "u%40", password := "p", host := some (.domain "relay.test")
            port := some 9000, path := .segments ["v4", "", ""], query := some "sid=old&x=1"
            fragment := some "end?sid=z" }
        userAgent := "agent" }
    let t : Target := ⟨"p&zone=q", "z é+%2B", "#?", 22, "="⟩
    let url := e.reconnectUrl t "a&ack=7#b%26 ü" 18446744073709551615
    Endpoint.parse base "agent" = .ok e ∧
      url.text =
        "ws://u%40:p@relay.test:9000/v4/reconnect?sid=a%26ack%3D7%23b%2526+%C3%BC" ++
          "&ack=18446744073709551615&newWebsocket=true&zone=z+%C3%A9%2B%252B#end?sid=z" ∧
      (authorized e "token" url).Carries
        [ ("sid", "a&ack=7#b%26 ü"), ("ack", "18446744073709551615"), ("newWebsocket", "true"),
          ("zone", "z é+%2B") ] := by
  intro base e t url
  have accepted : Endpoint.parse base "agent" = .ok e := by decide +kernel
  have text : url.text =
      "ws://u%40:p@relay.test:9000/v4/reconnect?sid=a%26ack%3D7%23b%2526+%C3%BC" ++
        "&ack=18446744073709551615&newWebsocket=true&zone=z+%C3%A9%2B%252B#end?sid=z" := by
    decide +kernel
  exact ⟨accepted, text, (authorized_parameters accepted t _ _ "token").2⟩

end Request

end RelayTunnel
