import ConnectionTopology.Collectors.SsEndpoints

/-!
# Sockets that are scoped to an interface

`ss` prints the interface of a scoped IPv6 socket behind the bracket. The parser cuts a zone off
inside the brackets only, so that the interface becomes a part of the port text, which `int`
then refuses: the line is skipped, on whichever side the interface stands.
-/
namespace ConnectionTopology

/-- `[address]%iface:port`. -/
structure ScopedEndpoint where
  address : IPv6Text
  iface : List Char
  ifaceChars : ∀ c ∈ iface, Text.isSpace c = false ∧ c ≠ ':' ∧ c ≠ ']'
  port : ℕ
  portRange : 1 ≤ port ∧ port ≤ 65535

def ScopedEndpoint.render (e : ScopedEndpoint) : List Char :=
  '[' :: e.address.text.toList ++ ']' :: '%' :: e.iface ++ ':' :: (toString e.port).toList

/-- A line in which a scoped endpoint stands in place of the local one, the peer or both. -/
structure ScopedLine where
  columns : SsConnection
  localScoped : Option ScopedEndpoint
  peerScoped : Option ScopedEndpoint
  isScoped : localScoped.isSome ∨ peerScoped.isSome
  oneLine : ∀ c ∈ columns.renderWith
    (localScoped.elim columns.localEnd.render ScopedEndpoint.render)
    (peerScoped.elim columns.peerEnd.render ScopedEndpoint.render), Text.isLineBreak c = false

namespace ScopedLine

variable (s : ScopedLine)

def localText : List Char := s.localScoped.elim s.columns.localEnd.render ScopedEndpoint.render

def peerText : List Char := s.peerScoped.elim s.columns.peerEnd.render ScopedEndpoint.render

def render : List Char := s.columns.renderWith s.localText s.peerText

/-- The local address without the interface. -/
def localAddress : String :=
  s.localScoped.elim s.columns.localEnd.host.address (·.address.text)

def localPort : ℕ := s.localScoped.elim s.columns.localEnd.portNumber (·.port)

/-- The peer, with the address without the interface. -/
def peer : Option (String × ℤ) :=
  s.peerScoped.elim s.columns.peerEnd.peer fun e => some (e.address.text, (e.port : ℤ))

/-- The connection that the line stands for. -/
def connection (upper : String → String) : NormalizedConnection :=
  { s.columns.connection upper with
    addressFamily := addressFamily (normalizeIpAddress s.localAddress)
    localIp := normalizeIpAddress s.localAddress
    localPort := s.localPort
    remoteIp := s.peer.map fun p => normalizeIpAddress p.1
    remotePort := s.peer.map (·.2) }

/-- The line is turned into its connection, and nothing is skipped. -/
def Collected (upper : String → String) : Prop :=
  parseSsOutputDetails upper (String.ofList s.render) = ⟨[s.connection upper], []⟩

end ScopedLine

/-! ## The port text -/

theorem ScopedEndpoint.render_noBlank (e : ScopedEndpoint) :
    ∀ c ∈ e.render, Text.isSpace c = false := by
  intro c hc
  simp only [ScopedEndpoint.render, List.cons_append, List.append_assoc, List.mem_cons,
    List.mem_append] at hc
  rcases hc with rfl | hc | rfl | rfl | hc | rfl | hc
  · decide
  · exact (e.address.char_spec hc).1
  · decide
  · decide
  · exact (e.ifaceChars c hc).1
  · decide
  · exact Text.not_isSpace_of_isDigit (isDigit_of_mem_toString hc)

/-- The interface and the colon end up in the port text. -/
theorem ScopedEndpoint.splitEndpoint_render (e : ScopedEndpoint) :
    splitEndpoint e.render =
      some (e.address.text.toList, e.iface ++ ':' :: (toString e.port).toList) := by
  have hiface : ']' ∉ e.iface := fun hc => (e.ifaceChars _ hc).2.2 rfl
  have hport : ']' ∉ (toString e.port).toList := by
    intro hc
    have hdigit := isDigit_of_mem_toString hc
    revert hdigit
    decide
  exact splitEndpoint_scoped hiface hport

/-- A scoped endpoint is refused on either side. -/
theorem ScopedEndpoint.parseEndpoint_render (e : ScopedEndpoint) (remote : Bool) :
    parseEndpoint remote (String.ofList e.render) = none := by
  have hcolon : ':' ∈ e.iface ++ ':' :: (toString e.port).toList := by simp
  have hread : ¬ Readable (e.iface ++ ':' :: (toString e.port).toList) :=
    fun h => not_mem_of_readable h ':' (by decide) (by decide) hcolon
  have hwildcard : ¬ isPeerWildcardPort (e.iface ++ ':' :: (toString e.port).toList) := by
    rintro (h | h)
    · rw [h] at hcolon
      revert hcolon
      decide
    · rw [h] at hcolon
      revert hcolon
      decide
  have hnumber : portNumber (e.iface ++ ':' :: (toString e.port).toList) = none := by
    rw [← Option.not_isSome_iff_eq_none]
    exact fun h => hread (portNumber_isSome.mp h)
  rw [parseEndpoint_split e.render_noBlank e.splitEndpoint_render, hnumber,
    if_neg fun h => hwildcard h.2]
  rfl

/-! ## The line -/

namespace ScopedLine

variable (s : ScopedLine)

theorem texts_spec : (s.localText ≠ [] ∧ ∀ c ∈ s.localText, Text.isSpace c = false) ∧
    s.peerText ≠ [] ∧ ∀ c ∈ s.peerText, Text.isSpace c = false := by
  have hside : ∀ (e : SsEndpoint) (e' : Option ScopedEndpoint),
      e'.elim e.render ScopedEndpoint.render ≠ [] ∧
        ∀ c ∈ e'.elim e.render ScopedEndpoint.render, Text.isSpace c = false := by
    intro e e'
    cases e' with
    | none => exact ⟨render_ne_nil e, render_noBlank e⟩
    | some e' => exact ⟨by simp [ScopedEndpoint.render], e'.render_noBlank⟩
  exact ⟨hside _ _, hside _ _⟩

theorem parseSsLine_render (upper : String → String) :
    parseSsLine upper s.render = .skipped "端点无效" := by
  obtain ⟨⟨hlocalNe, hlocal⟩, hpeerNe, hpeer⟩ := s.texts_spec
  rw [render, parseSsLine_renderWith upper _ hlocalNe hlocal hpeerNe hpeer]
  apply parseEndpoints_refused
  rcases s.isScoped with h | h
  · left
    obtain ⟨e, he⟩ := Option.isSome_iff_exists.mp h
    rw [localText, he]
    exact e.parseEndpoint_render false
  · right
    obtain ⟨e, he⟩ := Option.isSome_iff_exists.mp h
    rw [peerText, he]
    exact e.parseEndpoint_render true

/-- The only line of the output is skipped. -/
theorem parseSsOutputDetails_render (upper : String → String) :
    parseSsOutputDetails upper (String.ofList s.render) =
      ⟨[], [⟨1, "端点无效", String.ofList s.render⟩]⟩ := by
  have hne : s.render ≠ [] := by
    have hprotocol : s.columns.protocol.text.toList ≠ [] := by
      cases s.columns.protocol <;> decide
    simp [render, SsConnection.renderWith, hprotocol]
  have honeLine : ∀ c ∈ s.render, Text.isLineBreak c = false := s.oneLine
  have hlines : Text.splitLines s.render = [s.render] := by
    rw [Text.splitLines, Text.linesFrom_last honeLine, if_neg hne]
  rw [parseSsOutputDetails, String.toList_ofList, hlines, parseSsLines, s.parseSsLine_render]
  rfl

/-- A scoped socket is never collected: its line is the one that is skipped. -/
theorem not_collected (upper : String → String) :
    ¬ s.Collected upper ∧
      (parseSsOutputDetails upper (String.ofList s.render)).skippedLines =
        [⟨1, "端点无效", String.ofList s.render⟩] := by
  rw [Collected, s.parseSsOutputDetails_render]
  constructor
  · intro h
    cases h
  · rfl

end ScopedLine

/-- `fe80::1`, scoped to `eth0`. -/
def scopedLocal : ScopedEndpoint where
  address := ⟨"fe80::1", Text.forall_mem_of_all (by decide),
    ⟨⟨[0xfe80, 0, 0, 0, 0, 0, 0, 1], rfl, by decide⟩, by decide⟩⟩
  iface := "eth0".toList
  ifaceChars := Text.forall_mem_of_all (by decide)
  port := 22
  portRange := by decide

/-- An established `ssh` session between two link-local addresses. -/
def scopedSession : ScopedLine where
  columns := {
    protocol := .tcp
    state := ⟨"ESTAB".toList, by decide, Text.forall_mem_of_all (by decide)⟩
    recvQ := 0
    sendQ := 0
    localEnd := ⟨.any, none⟩
    peerEnd := ⟨.any, none⟩
    process := none
    padding := fun _ => 0 }
  localScoped := some scopedLocal
  peerScoped := some { scopedLocal with
    address := ⟨"fe80::2", Text.forall_mem_of_all (by decide),
      ⟨⟨[0xfe80, 0, 0, 0, 0, 0, 0, 2], rfl, by decide⟩, by decide⟩⟩
    port := 50124
    portRange := by decide }
  isScoped := .inl rfl
  oneLine := Text.forall_mem_of_all (by decide)

theorem scopedSession_lost :
    scopedSession.render =
        "tcp ESTAB 0 0 [fe80::1]%eth0:22 [fe80::2]%eth0:50124".toList ∧
      ¬ scopedSession.Collected id := by
  constructor
  · decide
  · intro h
    rw [ScopedLine.Collected, scopedSession.parseSsOutputDetails_render] at h
    cases h

end ConnectionTopology
