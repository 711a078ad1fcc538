/-
Device2/UrlCodec.lean

A request on its way from a client to the server: the URL built by
`Downloader::get` (`server/device_c.cpp`) and by the Tcl procedure `Device2::get`
(`tcl/device2.tcl`), and the three components `DevManager::parse_url` finds in it.

The clients escape each component by itself; libmicrohttpd takes the path of the
URL and undoes the escapes before it calls the server.  Both are parameters
(`UrlDecoder`, `Escaping`), and all that is asked of them is that the second undoes
the first, component by component.

The Tcl client always writes two slashes, so every request arrives as it was
meant.  `Downloader::get` leaves an empty component out together with its slash.
At the end of the URL this makes no difference; but a message without a device
name moves into the place of the name (`parseUrl_getUrl_iff`).
-/
import Device2.Client
import Device2.DevManager

namespace Device2

variable {σ : Type}

/-! ### The clients -/

/-- The URL that `Downloader::get` asks for. -/
def Downloader.getUrl (D : Downloader σ) (act dev cmd : Str) : Str :=
  let url := D.server ++ "/".toList ++ D.cm.escape act
  let url := if dev ≠ [] then url ++ "/".toList ++ D.cm.escape dev else url
  if cmd ≠ [] then url ++ "/".toList ++ D.cm.escape cmd else url

theorem Downloader.get_eq (D : Downloader σ) (act dev cmd : Str) (s : σ) :
    D.get act dev cmd s =
      match D.cm.perform (D.getUrl act dev cmd) s with
      | (.error text, s) => (.error { str := text }, s)
      | (.ok (httpCode, data), s) =>
        if httpCode ≠ 200 then (.error { str := data }, s) else (.ok data, s) := rfl

/-- The message of the Tcl client: `[join $args { }]`. -/
def tclMessage (args : List Str) : Str := [' '].intercalate args

/-- The URL of `Device2::get`, with `http::quoteString` and `$Device2::addr`. -/
def tclGetUrl (quoteString : Str → Str) (addr act dev : Str) (args : List Str) : Str :=
  addr ++ "/".toList ++ quoteString act ++ "/".toList ++ quoteString dev ++ "/".toList
    ++ quoteString (tclMessage args)

/-! ### From the URL to `parse_url` -/

/-- The path of a URL `<scheme>://<authority><path>`: it ends before a query or a
fragment. -/
def urlPath (url : Str) : Str :=
  (((url.dropWhile (· ≠ '/')).drop 2).dropWhile (· ≠ '/')).takeWhile
    fun c => c ≠ '?' ∧ c ≠ '#'

/-- How the HTTP server undoes the escapes in a path: a slash stands for itself. -/
structure UrlDecoder where
  decode : Str → Str
  decode_nil : decode [] = []
  decode_slash : ∀ s, decode ('/' :: s) = '/' :: decode s

/-- A way to escape a component that the server undoes: the escaped text has no
character with a meaning of its own in a URL, and in front of the next slash or of
the end it is read back. -/
structure Escaping (M : UrlDecoder) where
  escape : Str → Str
  escape_safe : ∀ s, ∀ c ∈ escape s, c ≠ '/' ∧ c ≠ '?' ∧ c ≠ '#'
  decode_escape : ∀ s rest, nul ∉ s → (rest = [] ∨ rest.head? = some '/') →
    M.decode (escape s ++ rest) = s ++ M.decode rest

section Decoding
variable {M : UrlDecoder}

/-- A URL path with these components. -/
def Escaping.path (E : Escaping M) (components : List Str) : Str :=
  components.flatMap fun s => '/' :: E.escape s

theorem Escaping.path_head (E : Escaping M) (components : List Str) :
    E.path components = [] ∨ (E.path components).head? = some '/' := by
  cases components <;> simp [Escaping.path]

/-- The components of the path arrive as they are. -/
theorem Escaping.decode_path (E : Escaping M) {components : List Str}
    (h : ∀ s ∈ components, nul ∉ s) :
    M.decode (E.path components) = components.flatMap ('/' :: ·) := by
  induction components with
  | nil => exact M.decode_nil
  | cons s components ih =>
    obtain ⟨hs, hrest⟩ := List.forall_mem_cons.mp h
    show M.decode ('/' :: (E.escape s ++ E.path components)) = _
    rw [M.decode_slash, E.decode_escape s _ hs (E.path_head components), ih hrest]
    rfl

/-- The path of a URL is what stands behind the address of the server. -/
theorem Escaping.urlPath_eq (E : Escaping M) {host : Str} (hhost : '/' ∉ host)
    (components : List Str) :
    urlPath ("http://".toList ++ host ++ E.path components) = E.path components := by
  have hauth : ((host ++ E.path components).dropWhile (· ≠ '/')) = E.path components := by
    rw [List.dropWhile_append_of_pos fun c hc => by simpa using ne_of_mem_of_not_mem hc hhost]
    rcases E.path_head components with h | h
    · rw [h]; rfl
    · obtain ⟨t, ht⟩ := List.head?_eq_some_iff.mp h
      rw [ht]
      exact List.dropWhile_cons_of_neg (by simp)
  show ((host ++ E.path components).dropWhile (· ≠ '/')).takeWhile _ = _
  rw [hauth, List.takeWhile_eq_self_iff]
  intro c hc
  obtain ⟨s, -, hc⟩ := List.mem_flatMap.mp hc
  rcases List.mem_cons.mp hc with rfl | hc
  · simp
  · simpa using (E.escape_safe s c hc).2

end Decoding

/-! ### Taking a path apart -/

variable {url piece rest act dev msg : Str} {p1 : Nat}

/-- What is behind a component that has been cut off. -/
theorem drop_component (h : url.drop p1 = piece ++ '/' :: rest) :
    url.drop (p1 + piece.length + 1) = rest ∧ p1 + piece.length + 1 ≤ url.length := by
  refine ⟨?_, ?_⟩
  · rw [Nat.add_assoc, ← List.drop_drop, h, ← List.drop_drop, List.drop_left]
    rfl
  · have hlen := congrArg List.length h
    simp only [List.length_drop, List.length_append, List.length_cons] at hlen
    omega

/-- One component is cut off. -/
theorem parseUrlLoop_component (h : url.drop p1 = piece ++ '/' :: rest) (hpiece : '/' ∉ piece)
    (k i : Nat) (ret : List Str) :
    parseUrlLoop url (k + 1) i p1 ret =
      parseUrlLoop url k (i + 1) (p1 + piece.length + 1) (ret.set i piece) := by
  have hp : p1 ≤ url.length := by have := (drop_component h).2; omega
  rw [parseUrlLoop, find_of_drop h hpiece]
  simp [substr, hp, h]

/-- Without a slash there is nothing to cut off. -/
theorem parseUrlLoop_last (h : '/' ∉ url.drop p1) (k i : Nat) (ret : List Str) :
    parseUrlLoop url k i p1 ret = some (i, p1, ret) := by
  cases k with
  | zero => rfl
  | succ k => rw [parseUrlLoop, find_eq_none h]

/-- The path of a request: the URL without one leading slash. -/
def requestPath (url : Str) : Str := if url.head? = some '/' then url.tail else url

/-- The rest of the path is the component the loop has stopped at. -/
theorem parseUrl_of_loop {p0 i : Nat} {ret : List Str}
    (h0 : (if url.head? = some '/' then 1 else 0) = p0)
    (h : parseUrlLoop url 2 0 p0 [[], [], []] = some (i, p1, ret)) (hp : p1 ≤ url.length) :
    parseUrl url = some (ret.set i (url.drop p1)) := by
  rw [parseUrl, h0, h]
  simp only [substrFrom, if_pos hp, Option.map_some]

/-- The place in the URL where the path begins. -/
theorem exists_drop_eq_requestPath (url : Str) :
    ∃ p0, (if url.head? = some '/' then 1 else 0) = p0 ∧ p0 ≤ url.length ∧
      url.drop p0 = requestPath url := by
  by_cases h : url.head? = some '/'
  · obtain ⟨path, rfl⟩ := List.head?_eq_some_iff.mp h
    exact ⟨1, rfl, by simp, rfl⟩
  · exact ⟨0, if_neg h, Nat.zero_le _, by rw [requestPath, if_neg h, List.drop_zero]⟩

theorem parseUrl_one (h : requestPath url = act) (hact : '/' ∉ act) :
    parseUrl url = some [act, [], []] := by
  obtain ⟨p0, h0, hp, hpath⟩ := exists_drop_eq_requestPath url
  rw [h] at hpath
  have hloop := parseUrlLoop_last (by rwa [hpath]) 2 0 [[], [], []]
  rw [parseUrl_of_loop h0 hloop hp, hpath]
  rfl

theorem parseUrl_two (h : requestPath url = act ++ '/' :: dev) (hact : '/' ∉ act)
    (hdev : '/' ∉ dev) : parseUrl url = some [act, dev, []] := by
  obtain ⟨p0, h0, -, hpath⟩ := exists_drop_eq_requestPath url
  rw [h] at hpath
  obtain ⟨h₂, hp⟩ := drop_component hpath
  have hloop := parseUrlLoop_component hpath hact 1 0 [[], [], []]
  rw [parseUrlLoop_last (by rwa [h₂]) 1 1] at hloop
  rw [parseUrl_of_loop h0 hloop hp, h₂]
  rfl

theorem parseUrl_components (h : requestPath url = act ++ '/' :: (dev ++ '/' :: msg))
    (hact : '/' ∉ act) (hdev : '/' ∉ dev) : parseUrl url = some [act, dev, msg] := by
  obtain ⟨p0, h0, -, hpath⟩ := exists_drop_eq_requestPath url
  rw [h] at hpath
  obtain ⟨h₂, -⟩ := drop_component hpath
  obtain ⟨h₃, hp⟩ := drop_component h₂
  have hloop := parseUrlLoop_component hpath hact 1 0 [[], [], []]
  rw [parseUrlLoop_component h₂ hdev 0 1] at hloop
  rw [parseUrl_of_loop h0 hloop hp, h₃]
  rfl

/-- A message behind one slash is taken for a device name. -/
theorem parseUrl_message_ne (hact : '/' ∉ act) (hmsg : msg ≠ []) :
    parseUrl ('/' :: (act ++ '/' :: msg)) ≠ some [act, [], msg] := by
  by_cases hslash : '/' ∈ msg
  · -- the message begins with the name, and what is left of it is shorter
    obtain ⟨a, b, rfl, ha⟩ := List.eq_append_cons_of_mem hslash
    rw [parseUrl_components rfl hact ha]
    intro heq
    have hb : b = a ++ '/' :: b := by simpa using (congrArg (fun l => (l.getD []).getD 2 []) heq)
    have := congrArg List.length hb
    simp at this
    omega
  · rw [parseUrl_two rfl hact hslash]
    intro heq
    simp [hmsg] at heq

/-! ### Nothing is lost -/

/-- The path put together again from its components; with `n` slashes the components
behind the `n`-th one are empty. -/
def Rebuilds (path act arg msg : Str) : (n : Nat) → Prop
  | 0 => path = act ∧ arg = [] ∧ msg = []
  | 1 => path = act ++ '/' :: arg ∧ msg = []
  | _ + 2 => path = act ++ '/' :: (arg ++ '/' :: msg)

/-- A text with a slash, cut at the first one. -/
theorem count_slash_cut {piece : Str} (h : '/' ∉ piece) (rest : Str) :
    (piece ++ '/' :: rest).count '/' = rest.count '/' + 1 := by
  rw [List.count_append, List.count_eq_zero.mpr h, List.count_cons_self, Nat.zero_add]

/-- **`parse_url` loses nothing.**  It never reads past the end of the URL, and the
path is its three components with slashes between them. -/
theorem parseUrl_rebuilds (url : Str) :
    ∃ act arg msg, parseUrl url = some [act, arg, msg] ∧ '/' ∉ act ∧ '/' ∉ arg ∧
      Rebuilds (requestPath url) act arg msg ((requestPath url).count '/') := by
  have hnil : '/' ∉ ([] : Str) := List.not_mem_nil
  by_cases h₁ : '/' ∈ requestPath url
  · obtain ⟨act, rest, hact, hno⟩ := List.eq_append_cons_of_mem h₁
    by_cases h₂ : '/' ∈ rest
    · obtain ⟨arg, msg, rfl, hno'⟩ := List.eq_append_cons_of_mem h₂
      refine ⟨act, arg, msg, parseUrl_components hact hno hno', hno, hno', ?_⟩
      rw [hact, count_slash_cut hno, count_slash_cut hno']
      rfl
    · refine ⟨act, rest, [], parseUrl_two hact hno h₂, hno, h₂, ?_⟩
      rw [hact, count_slash_cut hno, List.count_eq_zero.mpr h₂]
      exact ⟨rfl, rfl⟩
  · refine ⟨requestPath url, [], [], parseUrl_one rfl h₁, h₁, hnil, ?_⟩
    rw [List.count_eq_zero.mpr h₁]
    exact ⟨rfl, rfl, rfl⟩

/-- Two slashes in the middle, and one at the end. -/
example : parseUrl "ask//a/".toList = some ["ask".toList, [], "a/".toList] := by decide

/-! ### The two codecs -/

section Codecs
variable {M : UrlDecoder} {D : Downloader σ} {host : Str}

/-- The address in front of the paths. -/
theorem Downloader.getUrl_eq (curl : Escaping M) (hcurl : D.cm.escape = curl.escape)
    (act dev msg : Str) :
    D.getUrl act dev msg = D.server ++
      curl.path (act :: ((if dev ≠ [] then [dev] else []) ++ if msg ≠ [] then [msg] else [])) := by
  by_cases hdev : dev = [] <;> by_cases hmsg : msg = [] <;>
    simp [Downloader.getUrl, Escaping.path, hcurl, hdev, hmsg]

theorem tclGetUrl_eq (tcl : Escaping M) (addr act dev : Str) (args : List Str) :
    tclGetUrl tcl.escape addr act dev args = addr ++ tcl.path [act, dev, tclMessage args] := by
  simp [tclGetUrl, Escaping.path]

/-- **The codec of the clients and the server.**  The Tcl client's requests arrive
as they were meant, and so do those of `Downloader::get`, except for a message
without a device name. -/
theorem parseUrl_getUrl_iff (curl tcl : Escaping M) (hcurl : D.cm.escape = curl.escape)
    (hserver : D.server = "http://".toList ++ host) (hhost : '/' ∉ host) (hact : '/' ∉ act)
    (hdev : '/' ∉ dev) (hnul : nul ∉ act ∧ nul ∉ dev ∧ nul ∉ msg) :
    (parseUrl (M.decode (urlPath (D.getUrl act dev msg))) = some [act, dev, msg] ∧
      ∀ args, tclMessage args = msg →
        parseUrl (M.decode (urlPath (tclGetUrl tcl.escape D.server act dev args))) =
          some [act, dev, msg]) ↔
    (dev = [] → msg = []) := by
  have htcl : ∀ args, tclMessage args = msg →
      parseUrl (M.decode (urlPath (tclGetUrl tcl.escape D.server act dev args))) =
        some [act, dev, msg] := by
    rintro args rfl
    rw [tclGetUrl_eq, hserver, tcl.urlPath_eq hhost, tcl.decode_path (by simp [hnul])]
    simpa using parseUrl_components (rfl : requestPath ('/' :: _) = _) hact hdev
  rw [and_iff_left htcl, D.getUrl_eq curl hcurl, hserver, curl.urlPath_eq hhost,
    curl.decode_path (by split_ifs <;> simp [hnul])]
  by_cases hd : dev = [] <;> by_cases hm : msg = []
  · subst hd hm
    have hpath : requestPath ('/' :: act) = act := rfl
    simpa using parseUrl_one hpath hact
  · subst hd
    simpa [hm] using parseUrl_message_ne hact hm
  · subst hm
    simpa [hd] using parseUrl_two (rfl : requestPath ('/' :: _) = _) hact hdev
  · simpa [hd, hm] using parseUrl_components (rfl : requestPath ('/' :: _) = _) hact hdev

end Codecs

/-! ### Percent-encoding

The encoding of curl, of Tcl and of libmicrohttpd.  A `std::string` has
characters below 256; the others stand for themselves here. -/

def hexDigit (n : Nat) : Char := "0123456789ABCDEF".toList.getD n '0'

def hexValue (c : Char) : Option Nat := "0123456789ABCDEF".toList.idxOf? c

/-- Characters that need no escape. -/
def unreserved (c : Char) : Bool :=
  ('a' ≤ c ∧ c ≤ 'z') ∨ ('A' ≤ c ∧ c ≤ 'Z') ∨ ('0' ≤ c ∧ c ≤ '9') ∨ c ∈ ['-', '.', '_', '~']

def percentEscapeChar (c : Char) : Str :=
  if unreserved c ∨ 256 ≤ c.toNat then [c]
  else ['%', hexDigit (c.toNat / 16), hexDigit (c.toNat % 16)]

def percentEscape (s : Str) : Str := s.flatMap percentEscapeChar

/-- `%` and two digits are a character, anything else stands for itself. -/
def percentDecode : Str → Str
  | c :: a :: b :: s =>
    if c = '%' then
      match hexValue a, hexValue b with
      | some x, some y => Char.ofNat (16 * x + y) :: percentDecode s
      | _, _ => c :: percentDecode (a :: b :: s)
    else c :: percentDecode (a :: b :: s)
  -- too short for an escape
  | s => s

theorem hexValue_hexDigit : ∀ n, n < 16 → hexValue (hexDigit n) = some n := by decide

theorem hexDigit_safe : ∀ n, n < 16 → hexDigit n ≠ '/' ∧ hexDigit n ≠ '?' ∧ hexDigit n ≠ '#' := by
  decide

theorem percentDecode_of_ne {c : Char} (h : c ≠ '%') (s : Str) :
    percentDecode (c :: s) = c :: percentDecode s := by
  rcases s with - | ⟨a, - | ⟨b, s⟩⟩
  · rfl
  · rfl
  · rw [percentDecode, if_neg h]

theorem percentDecode_escape {x y : Nat} (hx : x < 16) (hy : y < 16) (s : Str) :
    percentDecode ('%' :: hexDigit x :: hexDigit y :: s) = Char.ofNat (16 * x + y) :: percentDecode s := by
  rw [percentDecode, if_pos rfl]
  simp only [hexValue_hexDigit x hx, hexValue_hexDigit y hy]

theorem percentDecode_escapeChar (c : Char) (s : Str) :
    percentDecode (percentEscapeChar c ++ s) = c :: percentDecode s := by
  by_cases h : unreserved c ∨ 256 ≤ c.toNat
  · rw [percentEscapeChar, if_pos h]
    refine percentDecode_of_ne ?_ s
    rintro rfl
    revert h
    decide
  · have hlt : c.toNat < 256 := by omega
    rw [percentEscapeChar, if_neg h]
    show percentDecode ('%' :: hexDigit _ :: hexDigit _ :: s) = _
    rw [percentDecode_escape (by omega) (by omega), Nat.div_add_mod, Char.ofNat_toNat]

/-- What the server does to a path. -/
def percentDecoder : UrlDecoder where
  decode := percentDecode
  decode_nil := rfl
  decode_slash := percentDecode_of_ne (by decide)

/-- What the clients do to a component. -/
def percentEscaping : Escaping percentDecoder where
  escape := percentEscape
  escape_safe := by
    intro s c hc
    obtain ⟨x, -, hc⟩ := List.mem_flatMap.mp hc
    by_cases h : unreserved x ∨ 256 ≤ x.toNat
    · rw [percentEscapeChar, if_pos h, List.mem_singleton] at hc
      subst hc
      refine ⟨?_, ?_, ?_⟩ <;> rintro rfl <;> revert h <;> decide
    · rw [percentEscapeChar, if_neg h] at hc
      have hlt : x.toNat < 256 := by omega
      simp only [List.mem_cons, List.not_mem_nil, or_false] at hc
      rcases hc with rfl | rfl | rfl
      · decide
      · exact hexDigit_safe _ (by omega)
      · exact hexDigit_safe _ (by omega)
  decode_escape := by
    intro s rest hnul hrest
    clear hnul hrest
    induction s with
    | nil => rfl
    | cons c s ih =>
      show percentDecode (percentEscapeChar c ++ percentEscape s ++ rest) = c :: (s ++ _)
      rw [List.append_assoc, percentDecode_escapeChar]
      exact congrArg (c :: ·) ih

/-- The client of a server on the same machine. -/
def localDownloader : Downloader Unit where
  cm := { escape := percentEscape, perform := fun _ s => (.ok (200, []), s) }
  server := "http://localhost:8082".toList

theorem parseUrl_getUrl_local :
    (parseUrl (percentDecoder.decode (urlPath (localDownloader.getUrl "ask" "dev" "*idn?"))) =
        some ["ask".toList, "dev".toList, "*idn?".toList] ∧
      ∀ args, tclMessage args = "*idn?".toList →
        parseUrl (percentDecoder.decode (urlPath
          (tclGetUrl percentEscaping.escape localDownloader.server "ask" "dev" args))) =
          some ["ask".toList, "dev".toList, "*idn?".toList]) ↔
    ("dev".toList = [] → "*idn?".toList = []) := by
  have hhost : '/' ∉ "localhost:8082".toList := by decide
  have hact : '/' ∉ "ask".toList := by decide
  have hdev : '/' ∉ "dev".toList := by decide
  have hnul : nul ∉ "ask".toList ∧ nul ∉ "dev".toList ∧ nul ∉ "*idn?".toList := by decide
  exact parseUrl_getUrl_iff percentEscaping percentEscaping rfl rfl hhost hact hdev hnul

/-- The message of a request without a device name arrives as the name. -/
theorem getUrl_message_without_device :
    parseUrl (percentDecode (urlPath (localDownloader.getUrl "ask" [] "gen"))) =
      some ["ask".toList, "gen".toList, []] ∧
    ["ask".toList, "gen".toList, []] ≠ ["ask".toList, [], "gen".toList] := by
  decide

end Device2
