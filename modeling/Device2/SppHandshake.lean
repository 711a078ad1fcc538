/-
Device2/SppHandshake.lean

The first words of an SPP program, as the constructor of `Driver_spp`
(`server/drv_spp.cpp`) reads them: the line `<symbol>SPP<version>`, and a reply,
whose text is ignored and whose error is thrown.

The two front ends of `device_c` say what they are in this way.  The constructor
succeeds on them if and only if the session with the server could be opened, it takes
exactly the greeting, and the error of a session that could not be opened is the error
of the constructor (`connect_frontEnd`).
-/
import Device2.ClientReplies
import Device2.Options

namespace Device2

open Lines

variable {σ : Type}

/-! ### The constructor -/

namespace DriverSpp

/-- `Driver_spp::Driver_spp` from the first line on: `lines` are what the program
writes, `last` is an unfinished line at the end of the file.  `getline` leaves it in
the variable, and the constructor does not look at the value returned.  An exception
closes the program. -/
def connect (R : Readers) (prog errpref idn : Str) (stop : GetlineEnd) (last : Str)
    (lines : List Str) : Except Err DriverSpp × List Str :=
  match lines, stop with
  | [], .throws e => (.error e, [])
  | ls, _ =>
    let l := ls.headD last
    if l.length < 5 ∨ (l.drop 1).take 3 ≠ "SPP".toList then
      (.error { str := errpref ++ "not an SPP program, header expected".toList }, ls.tail)
    else
      match R.strToInt (l.drop 4) with
      | .error e => (.error e, ls.tail)
      | .ok ver =>
        if ver ≠ 1 ∧ ver ≠ 2 then
          (.error { str := errpref ++ "unsupported SPP version".toList }, ls.tail)
        else
          let d : DriverSpp := ⟨prog, l.headD nul, idn⟩
          -- ignore message, throw errors
          match d.readSpp stop ls.tail with
          | (.error e, rest) => (.error e, rest)
          | (.ok _, rest) => (.ok d, rest)

variable {R : Readers} {prog errpref idn last : Str} {stop : GetlineEnd} {lines : List Str}

/-- A greeting of version 1 with the symbol `#`. -/
theorem connect_version (hR : R.integer "001".toList = some 1) :
    connect R prog errpref idn stop last ("#SPP001".toList :: lines) =
      match (peer prog idn).readSpp stop lines with
      | (.error e, rest) => (.error e, rest)
      | (.ok _, rest) => (.ok (peer prog idn), rest) := by
  have hver : R.strToInt "001".toList = .ok 1 := by
    rw [Readers.strToInt, Readers.strToUnsigned_eq hR]
    rfl
  show (match R.strToInt "001".toList with | .error e => _ | .ok ver => _) = _
  rw [hver]
  rfl

end DriverSpp

/-! ### The front ends -/

/-- The lines of a header, before the final line. -/
def SppAction.headerLines (server : Str) : SppAction → List Str
  | .useDev dev _ _ => ["Server: ".toList ++ server, "Device: ".toList ++ dev]
  | .useSrv => ["Server: ".toList ++ server]

/-- The names in the header are single lines. -/
def SppAction.OneLine (server : Str) : SppAction → Prop
  | .useDev dev _ _ => nl ∉ server ∧ nl ∉ dev
  | .useSrv => nl ∉ server

theorem completeLines_header (D : Downloader σ) {act : SppAction} (h : act.OneLine D.server) (t : Str) :
    completeLines nl ((D.frontEnd act).header ++ t) =
      "#SPP001".toList :: (act.headerLines D.server ++ completeLines nl t) := by
  have hline : ∀ label name u : Str, nl ∉ label → nl ∉ name →
      completeLines nl (label ++ name ++ nl :: u) = (label ++ name) :: completeLines nl u := by
    intro label name u hlabel hname
    refine completeLines_line ?_ u
    rw [List.mem_append, not_or]
    exact ⟨hlabel, hname⟩
  have hfirst : ∀ u : Str, completeLines nl ("#SPP001".toList ++ nl :: u) =
      "#SPP001".toList :: completeLines nl u := fun u => completeLines_line (by decide) u
  have hversion : "#SPP001\n".toList = "#SPP001".toList ++ [nl] := by decide
  have hnl : "\n".toList = [nl] := rfl
  cases act with
  | useDev dev lock name =>
    obtain ⟨hserver, hdev⟩ := h
    have hassoc : ∀ v a b c e u : Str, v ++ [nl] ++ a ++ b ++ [nl] ++ c ++ e ++ [nl] ++ u =
        v ++ nl :: (a ++ b ++ nl :: (c ++ e ++ nl :: u)) := by simp
    show completeLines nl ("#SPP001\n".toList ++ "Server: ".toList ++ D.server ++ "\n".toList
      ++ "Device: ".toList ++ dev ++ "\n".toList ++ t) = _
    rw [hversion, hnl, hassoc, hfirst, hline _ _ _ (by decide) hserver, hline _ _ _ (by decide) hdev]
    rfl
  | useSrv =>
    have hassoc : ∀ v a b u : Str, v ++ [nl] ++ a ++ b ++ [nl] ++ u = v ++ nl :: (a ++ b ++ nl :: u) := by
      simp
    show completeLines nl ("#SPP001\n".toList ++ "Server: ".toList ++ D.server ++ "\n".toList ++ t) = _
    rw [hversion, hnl, hassoc, hfirst, hline _ _ _ (by decide) h]
    rfl

/-- No line of a header begins with the symbol. -/
theorem SppAction.headerLines_protected (act : SppAction) (server : Str) :
    ∀ l ∈ act.headerLines server, Reply.Protected '#' l := by
  have hplain : ∀ (c : Char) (l : Str), c ≠ '#' → Reply.Protected '#' (c :: l) :=
    fun c l hc hl => absurd (Option.some.inj hl) hc
  cases act with
  | useDev dev lock name =>
    intro l hl
    rcases List.mem_cons.mp hl with rfl | hl
    · exact hplain 'S' _ (by decide)
    · rw [List.mem_singleton.mp hl]
      exact hplain 'D' _ (by decide)
  | useSrv =>
    intro l hl
    rw [List.mem_singleton.mp hl]
    exact hplain 'S' _ (by decide)

/-- The lines in front of the final one are read and ignored. -/
theorem readSpp_headerLines (act : SppAction) (server prog idn : Str) (stop : GetlineEnd)
    (lines : List Str) :
    ∃ ret, (peer prog idn).readSpp stop (act.headerLines server ++ lines) =
      (peer prog idn).readSppLoop stop lines ret :=
  ⟨_, DriverSpp.readSppLoop_append (act.headerLines_protected server) lines []⟩

section Greeting
variable {R : Readers} (hR : R.integer "001".toList = some 1) (D : Downloader σ) {act : SppAction}
  (hact : act.OneLine D.server) (rs : List (Except Err (List Str))) (prog errpref idn last : Str)
  (stop : GetlineEnd)

include hR hact

/-- A session that can be opened: the constructor takes the greeting and no line more. -/
theorem connect_opened {s s' : σ} (hopen : (D.frontEnd act).opening s = (.ok (), s')) :
    DriverSpp.connect R prog errpref idn stop last
        (completeLines nl ((D.frontEnd act).run D rs s).out) =
      (.ok (peer prog idn),
        completeLines nl (((D.frontEnd act).outcomes rs s').flatMap replyText)) := by
  have hok : ∀ t : Str, completeLines nl ("#OK\n".toList ++ t) =
      Final.ok.line '#' :: completeLines nl t :=
    fun t => completeLines_line (s := "#OK".toList) (by decide) t
  rw [(D.frontEnd act).run_out D rs hopen, List.append_assoc, completeLines_header D hact,
    DriverSpp.connect_version hR, hok]
  obtain ⟨ret, hread⟩ := readSpp_headerLines act D.server prog idn stop
    (Final.ok.line '#' :: completeLines nl (((D.frontEnd act).outcomes rs s').flatMap replyText))
  rw [hread, DriverSpp.readSppLoop_final]

/-- A session that can not be opened, with an error of one line. -/
theorem connect_refused {s s' : σ} {e : Err} (hopen : (D.frontEnd act).opening s = (.error e, s'))
    (hne : e.str ≠ []) (hnl : nl ∉ e.str) :
    DriverSpp.connect R prog errpref idn stop last
        (completeLines nl ((D.frontEnd act).run D rs s).out) = (.error { str := e.str }, []) := by
  have hout : ((D.frontEnd act).run D rs s).out = (D.frontEnd act).header ++ errorLine e := by
    rw [FrontEnd.run, hopen]
  have hline : nl ∉ "#Error: ".toList ++ e.str := by
    rw [List.mem_append, not_or]
    exact ⟨by decide, hnl⟩
  have herr : completeLines nl (errorLine e) = [(Final.error e.str).line '#'] := by
    rw [errorLine, if_pos hne]
    exact (completeLines_line hline []).trans (by rw [completeLines_nil]; rfl)
  rw [hout, completeLines_header D hact, DriverSpp.connect_version hR, herr]
  obtain ⟨ret, hread⟩ := readSpp_headerLines act D.server prog idn stop
    [(Final.error e.str).line '#']
  rw [hread, DriverSpp.readSppLoop_final]

end Greeting

/-- **The front ends greet as the driver expects it.**  If the session can be opened,
the constructor takes the greeting and no line more, and what comes next are the
replies.  If not, the constructor throws the error of the server, as long as its text
is one line. -/
theorem connect_frontEnd {R : Readers} (hR : R.integer "001".toList = some 1) (D : Downloader σ)
    {act : SppAction} (hact : act.OneLine D.server) (rs : List (Except Err (List Str))) (s : σ)
    (prog errpref idn last : Str) (stop : GetlineEnd) :
    (∀ s', (D.frontEnd act).opening s = (.ok (), s') →
      DriverSpp.connect R prog errpref idn stop last
          (completeLines nl ((D.frontEnd act).run D rs s).out) =
        (.ok (peer prog idn),
          completeLines nl (((D.frontEnd act).outcomes rs s').flatMap replyText))) ∧
    ∀ e s', (D.frontEnd act).opening s = (.error e, s') → e.str ≠ [] → nl ∉ e.str →
      DriverSpp.connect R prog errpref idn stop last
          (completeLines nl ((D.frontEnd act).run D rs s).out) = (.error { str := e.str }, []) :=
  ⟨fun _ hopen => connect_opened hR D hact rs prog errpref idn last stop hopen,
    fun _ _ hopen hne hnl => connect_refused hR D hact rs prog errpref idn last stop hopen hne hnl⟩

/-- A server that answers the `ping` of `use_srv`. -/
theorem connect_frontEnd_prepared :
    (∀ s', (preparedClient.frontEnd .useSrv).opening [(200, [])] = (.ok (), s') →
      DriverSpp.connect decimalReaders "device_c" "spp: device_c: " [] .eof []
          (completeLines nl ((preparedClient.frontEnd .useSrv).run preparedClient [] [(200, [])]).out) =
        (.ok (peer "device_c" []),
          completeLines nl (((preparedClient.frontEnd .useSrv).outcomes [] s').flatMap replyText))) ∧
    ∀ e s', (preparedClient.frontEnd .useSrv).opening [(200, [])] = (.error e, s') → e.str ≠ [] →
      nl ∉ e.str → DriverSpp.connect decimalReaders "device_c" "spp: device_c: " [] .eof []
          (completeLines nl ((preparedClient.frontEnd .useSrv).run preparedClient [] [(200, [])]).out) =
        (.error { str := e.str }, []) := by
  have hR : decimalReaders.integer "001".toList = some 1 := by decide
  have hact : SppAction.useSrv.OneLine preparedClient.server := show nl ∉ _ by decide
  exact connect_frontEnd hR preparedClient hact [] [(200, [])] "device_c" "spp: device_c: " [] [] .eof

end Device2
