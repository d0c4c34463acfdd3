import Mathlib.Data.String.Basic

/-! go-ricochet's `NetworkResolver.Resolve`, which turns a hostname in one of three forms,
`L`, `ricochet:L` and `127.0.0.1:<port>|L`, into a connection and the onion label `L`. Strings
are lists of characters; `strings.HasPrefix` is `List.isPrefixOf`, and `strings.Split` on a
one-character separator is `split`. The calls into the network are left open as a
`Network`.

The local form is read without checking that the `|` override is there: a hostname that starts
with `127.0.0.1` and has no `|` makes `Resolve` index past the end of the slice `strings.Split`
returns, once the local address resolves and the dial succeeds. Every other input returns a
connection or an error, and on the three documented forms the hostname returned is `L`. -/

namespace Ricochet.Resolver

/-- The outcomes of the calls `Resolve` makes into the network: `net.ResolveTCPAddr`,
`net.DialTCP`, `proxy.SOCKS5` and the Tor dialer's `Dial`. Addresses and connections are
pointers; `none` is an error. -/
structure Network where
  resolveTCPAddr : String → Option Nat
  dialTCP : Nat → Option Nat
  socks5 : Except String Unit
  dial : String → Option Nat

/-- The errors `Resolve` returns: the package's three `Error` constants, or the error of
`proxy.SOCKS5` passed on. -/
inductive ResolveError
  | cannotResolveLocalTCPAddress
  | cannotDialLocalTCPAddress
  | cannotDialRicochetAddress
  | socks (err : String)
  deriving DecidableEq, Repr

/-- How a call of `Resolve` ends: it returns a connection and a hostname, returns an error, or
panics indexing a slice of length `length` at `index`. -/
inductive Resolution
  | conn (conn : Nat) (hostname : String)
  | error (err : ResolveError)
  | indexOutOfRange (index length : Nat)
  deriving DecidableEq, Repr

def Resolution.isPanic : Resolution → Bool
  | .indexOutOfRange _ _ => true
  | _ => false

/-! ### `strings.Split` -/

/-- The first piece of `s` up to `sep`, and the pieces after it. -/
def splitAux (sep : Char) : List Char → List Char × List (List Char)
  | [] => ([], [])
  | c :: cs =>
    let (w, ws) := splitAux sep cs
    if c = sep then ([], w :: ws) else (c :: w, ws)

/-- `strings.Split(s, sep)` for a one-character `sep`: the pieces of `s` around each
occurrence of `sep`, one more than there are occurrences. -/
def split (sep : Char) (s : List Char) : List (List Char) :=
  (splitAux sep s).1 :: (splitAux sep s).2

theorem splitAux_append {sep : Char} {a : List Char} (h : sep ∉ a) (l : List Char) :
    splitAux sep (a ++ l) = (a ++ (splitAux sep l).1, (splitAux sep l).2) := by
  induction a with
  | nil => rfl
  | cons c a ih =>
    have hc : c ≠ sep := fun e => h (e ▸ List.mem_cons_self _ _)
    simp [splitAux, ih (fun hm => h (List.mem_cons_of_mem _ hm)), hc]

theorem split_of_not_mem {sep : Char} {s : List Char} (h : sep ∉ s) : split sep s = [s] := by
  have e := splitAux_append h []
  rw [List.append_nil] at e
  simp [split, e, splitAux]

theorem split_append_sep {sep : Char} {a : List Char} (h : sep ∉ a) (b : List Char) :
    split sep (a ++ sep :: b) = a :: split sep b := by
  simp [split, splitAux_append h, splitAux]

theorem splitAux_snd_of_mem {sep : Char} :
    ∀ {s : List Char}, sep ∈ s → ∃ x ws, (splitAux sep s).2 = x :: ws
  | c :: cs, h => by
    by_cases hc : c = sep
    · exact ⟨(splitAux sep cs).1, (splitAux sep cs).2, by simp [splitAux, hc]⟩
    · obtain ⟨x, ws, e⟩ := splitAux_snd_of_mem (List.mem_of_ne_of_mem (Ne.symm hc) h)
      exact ⟨x, ws, by simp [splitAux, hc, e]⟩

theorem split_of_mem {sep : Char} {s : List Char} (h : sep ∈ s) :
    ∃ w x ws, split sep s = w :: x :: ws := by
  obtain ⟨x, ws, e⟩ := splitAux_snd_of_mem h
  exact ⟨_, x, ws, by rw [split, e]⟩

/-! ### `Resolve` -/

/-- The local branch of `Resolve`, on `addrParts := strings.Split(hostname, "|")`. -/
def resolveLocal (net : Network) (addrParts : List (List Char)) : Resolution :=
  match addrParts[0]? with
  | none => .indexOutOfRange 0 addrParts.length
  | some addr =>
    match net.resolveTCPAddr (String.mk addr) with
    | none => .error .cannotResolveLocalTCPAddress
    | some tcpAddr =>
      match net.dialTCP tcpAddr with
      | none => .error .cannotDialLocalTCPAddress
      | some conn =>
        -- return just the onion address, not the local override for the hostname
        match addrParts[1]? with
        | some onion => .conn conn (String.mk onion)
        | none => .indexOutOfRange 1 addrParts.length

/-- The Tor branch of `Resolve`, from `proxy.SOCKS5` on. -/
def dialOnion (net : Network) (resolvedHostname : String) : Resolution :=
  match net.socks5 with
  | .error err => .error (.socks err)
  | .ok () =>
    match net.dial (resolvedHostname ++ ".onion:9878") with
    | none => .error .cannotDialRicochetAddress
    | some conn => .conn conn resolvedHostname

/-- `NetworkResolver.Resolve(hostname)`. -/
def resolve (net : Network) (hostname : String) : Resolution :=
  if "127.0.0.1".toList.isPrefixOf hostname.toList then resolveLocal net (split '|' hostname.toList)
  else if "ricochet:".toList.isPrefixOf hostname.toList then
    let addrParts := split ':' hostname.toList
    match addrParts[1]? with
    | some onion => dialOnion net (String.mk onion)
    | none => .indexOutOfRange 1 addrParts.length
  else dialOnion net hostname

/-! ### Which inputs panic -/

@[simp] theorem dialOnion_isPanic (net : Network) (r : String) : (dialOnion net r).isPanic = false := by
  unfold dialOnion
  split
  · rfl
  · split <;> rfl

theorem dialOnion_hostname {net : Network} {r h : String} {conn : Nat}
    (e : dialOnion net r = .conn conn h) : h = r := by
  unfold dialOnion at e
  split at e
  · cases e
  · split at e <;> cases e
    rfl

theorem resolveLocal_cons_cons (net : Network) (w x : List Char) (ws : List (List Char)) :
    (resolveLocal net (w :: x :: ws)).isPanic = false ∧
      ∀ conn h, resolveLocal net (w :: x :: ws) = .conn conn h → h = String.mk x := by
  unfold resolveLocal
  simp only [List.getElem?_cons_zero, List.getElem?_cons_succ]
  split
  · simp [Resolution.isPanic]
  · split
    · simp [Resolution.isPanic]
    · exact ⟨rfl, fun _ _ e => by cases e; rfl⟩

/-- Without it, the local branch panics exactly when the address resolves and the dial
succeeds, and never returns a connection. -/
theorem resolveLocal_single (net : Network) (w : List Char) :
    ((resolveLocal net [w]).isPanic = true ↔
      ∃ a c, net.resolveTCPAddr (String.mk w) = some a ∧ net.dialTCP a = some c) ∧
      ∀ conn h, resolveLocal net [w] ≠ .conn conn h := by
  unfold resolveLocal
  simp only [List.getElem?_cons_zero, List.getElem?_cons_succ, List.getElem?_nil]
  cases ha : net.resolveTCPAddr (String.mk w) with
  | none => simp [Resolution.isPanic]
  | some a =>
    cases hc : net.dialTCP a with
    | none => simp [Resolution.isPanic, hc]
    | some c => simp [Resolution.isPanic, hc]

/-- `Resolve` panics exactly on a hostname that starts with `127.0.0.1` and has no `|`, when
the local address resolves and the dial succeeds. -/
theorem resolve_isPanic_iff (net : Network) (hostname : String) :
    (resolve net hostname).isPanic = true ↔
      "127.0.0.1".toList <+: hostname.toList ∧ '|' ∉ hostname.toList ∧
        ∃ a c, net.resolveTCPAddr hostname = some a ∧ net.dialTCP a = some c := by
  unfold resolve
  split_ifs with hl hr
  · rw [List.isPrefixOf_iff_prefix] at hl
    by_cases hbar : '|' ∈ hostname.toList
    · obtain ⟨w, x, ws, e⟩ := split_of_mem hbar
      rw [e, (resolveLocal_cons_cons net w x ws).1]
      exact ⟨nofun, fun ⟨_, hn, _⟩ => absurd hbar hn⟩
    · rw [split_of_not_mem hbar, (resolveLocal_single net _).1]
      simp only [hl, hbar, not_false_eq_true, true_and]
      rfl
  · obtain ⟨w, x, ws, e⟩ :=
      split_of_mem ((List.isPrefixOf_iff_prefix.mp hr).subset (by decide : ':' ∈ "ricochet:".toList))
    simp only [e, List.getElem?_cons_succ, List.getElem?_cons_zero, dialOnion_isPanic]
    exact ⟨nofun, fun ⟨hp, _⟩ => absurd (List.isPrefixOf_iff_prefix.mpr hp) hl⟩
  · rw [dialOnion_isPanic]
    exact ⟨nofun, fun ⟨hp, _⟩ => absurd (List.isPrefixOf_iff_prefix.mpr hp) hl⟩

theorem resolve_label {net : Network} {L h : String} {conn : Nat} (hc : ':' ∉ L.toList)
    (hb : '|' ∉ L.toList) (e : resolve net L = .conn conn h) : h = L := by
  unfold resolve at e
  split_ifs at e with hl hr
  · rw [split_of_not_mem hb] at e
    exact absurd e ((resolveLocal_single net _).2 conn h)
  · exact absurd ((List.isPrefixOf_iff_prefix.mp hr).subset (by decide)) hc
  · exact dialOnion_hostname e

theorem resolve_ricochet {net : Network} {L h : String} {conn : Nat} (hc : ':' ∉ L.toList)
    (e : resolve net ("ricochet:" ++ L) = .conn conn h) : h = L := by
  have hsplit : split ':' ("ricochet:" ++ L).toList = ["ricochet".toList, L.toList] := by
    show split ':' ("ricochet".toList ++ ':' :: L.toList) = _
    rw [split_append_sep (by decide), split_of_not_mem hc]
  have hl : "127.0.0.1".toList.isPrefixOf ("ricochet:" ++ L).toList = false := rfl
  have hr : "ricochet:".toList.isPrefixOf ("ricochet:" ++ L).toList = true :=
    List.isPrefixOf_iff_prefix.mpr (List.prefix_append _ _)
  simp only [resolve, hl, hr, hsplit, Bool.false_eq_true, if_false, if_true] at e
  exact dialOnion_hostname e

theorem resolve_local {net : Network} {port L h : String} {conn : Nat} (hp : '|' ∉ port.toList)
    (hb : '|' ∉ L.toList) (e : resolve net ("127.0.0.1:" ++ port ++ "|" ++ L) = .conn conn h) :
    h = L := by
  have hlist : ("127.0.0.1:" ++ port ++ "|" ++ L).toList =
      ("127.0.0.1:" ++ port).toList ++ '|' :: L.toList := by simp
  have hfront : '|' ∉ ("127.0.0.1:" ++ port).toList := by simpa using hp
  have hl : "127.0.0.1".toList.isPrefixOf ("127.0.0.1:" ++ port ++ "|" ++ L).toList = true := by
    rw [List.isPrefixOf_iff_prefix, hlist]
    exact List.prefix_append "127.0.0.1".toList (':' :: (port.toList ++ '|' :: L.toList))
  rw [resolve, if_pos hl, hlist, split_append_sep hfront, split_of_not_mem hb] at e
  exact (resolveLocal_cons_cons net _ _ _).2 conn h e

/-- `Resolve` panics exactly on a `127.0.0.1` hostname with no `|` whose address resolves and dial
succeeds; on the three documented forms it returns the label `L`. -/
theorem resolve_panic_and_label (net : Network) (hostname L port : String) :
    ((resolve net hostname).isPanic = true ↔
      "127.0.0.1".toList <+: hostname.toList ∧ '|' ∉ hostname.toList ∧
        ∃ a c, net.resolveTCPAddr hostname = some a ∧ net.dialTCP a = some c) ∧
    (':' ∉ L.toList → '|' ∉ L.toList → '|' ∉ port.toList → ∀ conn h,
      (resolve net L = .conn conn h → h = L) ∧
      (resolve net ("ricochet:" ++ L) = .conn conn h → h = L) ∧
      (resolve net ("127.0.0.1:" ++ port ++ "|" ++ L) = .conn conn h → h = L)) :=
  ⟨resolve_isPanic_iff net hostname,
    fun hc hb hp _ _ => ⟨resolve_label hc hb, resolve_ricochet hc, resolve_local hp hb⟩⟩

/-- A network on which every call succeeds. -/
def loopbackNetwork : Network := ⟨fun _ => some 0, fun _ => some 0, .ok (), fun _ => some 0⟩

/-- A local address without the override: `strings.Split` returns one piece, and
`addrParts[1]` is out of range. -/
theorem resolve_panic_and_label_at_local_port :
    (resolve loopbackNetwork "127.0.0.1:55555").isPanic = true ∧
      resolve loopbackNetwork "127.0.0.1:55555" = .indexOutOfRange 1 1 :=
  ⟨(resolve_panic_and_label loopbackNetwork "127.0.0.1:55555" "" "").1.mpr
    ⟨by decide, by decide, 0, 0, rfl, rfl⟩, by decide⟩

end Ricochet.Resolver
