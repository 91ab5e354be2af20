import KubeSsh.Common.GoString

/-!
# Go's `net.JoinHostPort` and `net.SplitHostPort`

`joinHostPort` puts brackets around a host that contains a colon and does nothing else to it.
`splitHostPort` accepts the two forms `host:port` and `[host]:port`; `splitHostPort_eq_ok_iff` says
exactly which strings those are.
-/

namespace KubeSsh

open Strings

/-- `net.JoinHostPort`. -/
def joinHostPort (host port : GoString) : GoString :=
  if Byte.colon ∈ host then Byte.lbracket :: host ++ [Byte.rbracket, Byte.colon] ++ port
  else host ++ Byte.colon :: port

/-- The reasons for which `net.SplitHostPort` fails. -/
inductive AddrError
  | missingPort
  | tooManyColons
  | missingCloseBracket
  | unexpectedOpenBracket
  | unexpectedCloseBracket
deriving DecidableEq

/-- The text of a `net.AddrError` without its address. -/
def AddrError.text : AddrError → String
  | .missingPort => "missing port in address"
  | .tooManyColons => "too many colons in address"
  | .missingCloseBracket => "missing ']' in address"
  | .unexpectedOpenBracket => "unexpected '[' in address"
  | .unexpectedCloseBracket => "unexpected ']' in address"

/-- `AddrError.Error` for the address that was split. -/
def AddrError.message (err : AddrError) (addr : GoString) : Message :=
  if addr = [] then .text err.text
  else [.bytes (str "address "), .bytes addr, .bytes (str ": "), .bytes (str err.text)]

/-- `net.SplitHostPort`. The port starts behind the last colon; a host in brackets must end just
before that colon, any other host must not contain a colon. -/
def splitHostPort (hostport : GoString) : Except AddrError (GoString × GoString) :=
  match cutLast Byte.colon hostport with
  | none => .error .missingPort
  | some (beforePort, port) =>
    if hostport.head? = some Byte.lbracket then
      match cut Byte.rbracket hostport with
      | none => .error .missingCloseBracket
      | some (opened, closed) =>
        if closed = [] then .error .missingPort
        else if beforePort = opened ++ [Byte.rbracket] then
          if Byte.lbracket ∈ hostport.drop 1 then .error .unexpectedOpenBracket
          else if Byte.rbracket ∈ closed then .error .unexpectedCloseBracket
          else .ok (opened.drop 1, port)
        else if closed.head? = some Byte.colon then .error .tooManyColons
        else .error .missingPort
    else if Byte.colon ∈ beforePort then .error .tooManyColons
    else if Byte.lbracket ∈ hostport then .error .unexpectedOpenBracket
    else if Byte.rbracket ∈ hostport then .error .unexpectedCloseBracket
    else .ok (beforePort, port)

/-- A part of an address that contains neither brackets nor colons. -/
def PlainPart (s : GoString) : Prop :=
  Byte.colon ∉ s ∧ Byte.lbracket ∉ s ∧ Byte.rbracket ∉ s

/-- The accepted addresses: `host:port` with plain parts, or `[host]:port` where the host may
contain colons. -/
inductive HostPortForm (hostport host port : GoString) : Prop
  | plain : hostport = host ++ Byte.colon :: port → PlainPart host → PlainPart port →
      HostPortForm hostport host port
  | bracketed : hostport = Byte.lbracket :: host ++ [Byte.rbracket, Byte.colon] ++ port →
      Byte.lbracket ∉ host → Byte.rbracket ∉ host → PlainPart port →
      HostPortForm hostport host port

theorem hostPortForm_of_splitHostPort {hostport host port : GoString}
    (h : splitHostPort hostport = .ok (host, port)) : HostPortForm hostport host port := by
  unfold splitHostPort at h
  split at h
  · cases h
  rename_i beforePort port' hlast
  obtain ⟨hsplit, hport⟩ := cutLast_eq_some_iff.mp hlast
  split at h
  · -- the bracketed form
    rename_i hhead
    split at h
    · cases h
    rename_i opened closed hcut
    obtain ⟨hclose, hopened⟩ := cut_eq_some_iff.mp hcut
    simp only [ite_eq_iff, reduceCtorEq, and_false, or_false, false_or] at h
    obtain ⟨-, hbefore, hopen, hclosed, hok⟩ := h
    obtain ⟨rfl, rfl⟩ := Prod.mk.inj (Except.ok.inj hok)
    have htail : closed = Byte.colon :: port' := by
      rw [hbefore, hclose, List.append_assoc] at hsplit
      exact (List.cons.inj (List.append_cancel_left hsplit)).2
    obtain ⟨rest, rfl⟩ : ∃ rest, opened = Byte.lbracket :: rest := by
      obtain ⟨tail, htail⟩ := List.head?_eq_some_iff.mp hhead
      rcases List.append_eq_cons_iff.mp (hclose.symm.trans htail) with ⟨-, h⟩ | ⟨rest, h, -⟩
      · exact absurd (List.cons.inj h).1 (by decide)
      · exact ⟨rest, h⟩
    rw [hclose, htail] at hopen
    simp only [List.cons_append, List.drop_one, List.tail_cons, List.mem_append, List.mem_cons,
      not_or] at hopen
    rw [htail, List.mem_cons, not_or] at hclosed
    refine .bracketed ?_ hopen.1 (fun hmem => hopened (List.mem_cons_of_mem _ hmem))
      ⟨hport, hopen.2.2.2, hclosed.2⟩
    rw [hclose, htail]
    simp
  · -- the plain form
    simp only [ite_eq_iff, reduceCtorEq, and_false, false_or] at h
    obtain ⟨hcolon, hopen, hclosed, hok⟩ := h
    obtain ⟨rfl, rfl⟩ := Prod.mk.inj (Except.ok.inj hok)
    rw [hsplit, List.mem_append, List.mem_cons, not_or, not_or] at hopen hclosed
    exact .plain hsplit ⟨hcolon, hopen.1, hclosed.1⟩ ⟨hport, hopen.2.2, hclosed.2.2⟩

/-- The addresses `net.SplitHostPort` accepts are exactly those of `HostPortForm`. -/
theorem splitHostPort_eq_ok_iff {hostport host port : GoString} :
    splitHostPort hostport = .ok (host, port) ↔ HostPortForm hostport host port := by
  refine ⟨hostPortForm_of_splitHostPort, ?_⟩
  rintro (⟨rfl, hhost, hport⟩ | ⟨rfl, hopen, hclose, hport⟩)
  · have hlast : cutLast Byte.colon (host ++ Byte.colon :: port) = some (host, port) :=
      cutLast_eq_some_iff.mpr ⟨rfl, hport.1⟩
    have hhead : (host ++ Byte.colon :: port).head? ≠ some Byte.lbracket := by
      cases host with
      | nil => exact fun h => absurd (Option.some.inj h) (by decide)
      | cons b rest =>
        simp only [List.cons_append, List.head?_cons, ne_eq, Option.some.injEq]
        rintro rfl
        exact hhost.2.1 (by simp)
    have hno : ∀ b, b ≠ Byte.colon → b ∉ host → b ∉ port → b ∉ host ++ Byte.colon :: port := by
      intro b hb hh hp
      simp [hb, hh, hp]
    simp only [splitHostPort, hlast, if_neg hhead, if_neg hhost.1,
      if_neg (hno _ (by decide) hhost.2.1 hport.2.1), if_neg (hno _ (by decide) hhost.2.2 hport.2.2)]
  · have hlast : cutLast Byte.colon
        (Byte.lbracket :: host ++ [Byte.rbracket, Byte.colon] ++ port)
          = some (Byte.lbracket :: host ++ [Byte.rbracket], port) :=
      cutLast_eq_some_iff.mpr ⟨by simp, hport.1⟩
    have hcut : cut Byte.rbracket (Byte.lbracket :: host ++ [Byte.rbracket, Byte.colon] ++ port)
        = some (Byte.lbracket :: host, Byte.colon :: port) := by
      refine cut_eq_some_iff.mpr ⟨by simp, ?_⟩
      rw [List.mem_cons, not_or]
      exact ⟨by decide, hclose⟩
    have hlb : Byte.lbracket ∉ host ++ Byte.rbracket :: Byte.colon :: port := by
      simp only [List.mem_append, List.mem_cons, not_or]
      exact ⟨hopen, by decide, by decide, hport.2.1⟩
    have hrb : Byte.rbracket ∉ Byte.colon :: port := by
      rw [List.mem_cons, not_or]
      exact ⟨by decide, hport.2.2⟩
    simp only [splitHostPort, hlast, hcut]
    simp [hlb, hrb]

/-! ## Addresses that were joined -/

/-- The port of an address stands behind its last colon. -/
theorem joinHostPort_eq_append (host port : GoString) :
    joinHostPort host port
      = (if Byte.colon ∈ host then Byte.lbracket :: host ++ [Byte.rbracket] else host) ++
        Byte.colon :: port := by
  unfold joinHostPort
  split <;> simp

theorem cutLast_joinHostPort {host port : GoString} (hport : Byte.colon ∉ port) :
    cutLast Byte.colon (joinHostPort host port)
      = some (if Byte.colon ∈ host then Byte.lbracket :: host ++ [Byte.rbracket] else host, port) :=
  cutLast_eq_some_iff.mpr ⟨joinHostPort_eq_append host port, hport⟩

/-- An address determines its host and port. -/
theorem joinHostPort_inj {host host' port port' : GoString} (hport : Byte.colon ∉ port)
    (hport' : Byte.colon ∉ port') :
    joinHostPort host port = joinHostPort host' port' ↔ host = host' ∧ port = port' := by
  refine ⟨fun h => ?_, fun ⟨hh, hp⟩ => by rw [hh, hp]⟩
  have hcut := @cutLast_joinHostPort host port hport
  rw [h, cutLast_joinHostPort hport'] at hcut
  obtain ⟨hhost, rfl⟩ := Prod.mk.inj (Option.some.inj hcut)
  refine ⟨?_, rfl⟩
  by_cases hc : Byte.colon ∈ host
  · by_cases hc' : Byte.colon ∈ host'
    · rw [if_pos hc, if_pos hc'] at hhost
      simpa using hhost.symm
    · rw [if_pos hc, if_neg hc'] at hhost
      exact absurd (by rw [hhost]; simp [hc]) hc'
  · by_cases hc' : Byte.colon ∈ host'
    · rw [if_neg hc, if_pos hc'] at hhost
      exact absurd (by rw [← hhost]; simp [hc']) hc
    · rw [if_neg hc, if_neg hc'] at hhost
      exact hhost.symm
end KubeSsh
