/-
Device2/Client.lean

The client program: class `Downloader` (`server/device_c.cpp`) with its two SPP
front ends, `use_dev` and `use_srv`.

libcurl is a parameter (`Curl`): the escaping of a URL component, and what
`curl_easy_perform` gives, as a function of a state it may change.  So the
answers to a sequence of requests are arbitrary.  The input of a front end is
what `read_words` delivers from it, call by call: the words of a line or an error;
the end of the list is the end of the input, where it returns no words.

Both front ends are one loop around a request of their own (`FrontEnd`).  What
they write is the greeting and then, request by request, the text `replyText` of
its outcome (`FrontEnd.run_out`).
-/
import Device2.Spp

namespace Device2

open Lines

variable {σ : Type}

/-! ### Words -/

/-- The escaping of one word in `join_words`. -/
def escapeWord (w : Str) : Str :=
  w.flatMap fun c => if c ∈ ['\\', Char.ofNat 34, Char.ofNat 39, '#'] then ['\\', c] else [c]

/-- `join_words`: the words as `read_words` can read them again. -/
def joinWords (words : List Str) : Str :=
  words.foldl (fun ret w =>
    let str := escapeWord w
    let quote := if ' ' ∈ str ∨ '\t' ∈ str ∨ nl ∈ str ∨ str = [] then [Char.ofNat 34] else []
    (if ret.length > 0 then ret ++ [' '] else ret) ++ quote ++ str ++ quote) []

/-! ### HTTP requests -/

/-- libcurl: `curl_easy_escape`, and `curl_easy_perform` with the error text or
the response code and the data. -/
structure Curl (σ : Type) where
  escape : Str → Str
  perform : Str → σ → Except Str (Nat × Str) × σ

/-- Class `Downloader`. -/
structure Downloader (σ : Type) where
  cm : Curl σ
  server : Str

/-- `Downloader::get`: ask the server. -/
def Downloader.get (D : Downloader σ) (act dev cmd : Str) (s : σ) : Except Err Str × σ :=
  let url := D.server ++ "/".toList ++ D.cm.escape act
  let url := if dev ≠ [] then url ++ "/".toList ++ D.cm.escape dev else url
  let url := if cmd ≠ [] then url ++ "/".toList ++ D.cm.escape cmd else url
  match D.cm.perform url s with
  | (.error text, s) => (.error { str := text }, s)
  | (.ok (httpCode, data), s) =>
    if httpCode ≠ 200 then (.error { str := data }, s) else (.ok data, s)

/-! ### The SPP front ends -/

/-- What a front end writes before it serves requests, the requests to the server
that open the session, and the request for the words of one line. -/
structure FrontEnd (σ : Type) where
  header : Str
  opening : σ → Except Err Unit × σ
  request : List Str → σ → Except Err Str × σ

namespace Downloader

/-- `Downloader::use_dev`: SPP interface to a single device. -/
def useDev (D : Downloader σ) (dev : Str) (lock : Bool) (name : Str) : FrontEnd σ where
  header := "#SPP001\n".toList ++ "Server: ".toList ++ D.server ++ "\n".toList
    ++ "Device: ".toList ++ dev ++ "\n".toList
  opening := fun s =>
    match D.get "use" dev [] s with
    | (.error e, s) => (.error e, s)
    | (.ok _, s) =>
      match if name ≠ [] then D.get "set_conn_name" name [] s else (.ok [], s) with
      | (.error e, s) => (.error e, s)
      | (.ok _, s) =>
        match if lock then D.get "lock" dev [] s else (.ok [], s) with
        | (.error e, s) => (.error e, s)
        | (.ok _, s) => (.ok (), s)
  request := fun pars s => D.get "ask" dev (joinWords pars) s

/-- `Downloader::use_srv`: SPP interface to the server. -/
def useSrv (D : Downloader σ) : FrontEnd σ where
  header := "#SPP001\n".toList ++ "Server: ".toList ++ D.server ++ "\n".toList
  opening := fun s =>
    match D.get "ping" [] [] s with
    | (.error e, s) => (.error e, s)
    | (.ok _, s) => (.ok (), s)
  request := fun pars s =>
    if pars.length > 3 then (.error { str := "too many arguments" }, s)
    else D.get (pars.getD 0 []) (pars.getD 1 []) (pars.getD 2 []) s

end Downloader

/-- The two actions of `device_c` that talk SPP. -/
inductive SppAction
  | useDev (dev : Str) (lock : Bool) (name : Str)
  | useSrv
  deriving DecidableEq

/-- The front end of an action. -/
def Downloader.frontEnd (D : Downloader σ) : SppAction → FrontEnd σ
  | .useDev dev lock name => D.useDev dev lock name
  | .useSrv => D.useSrv

/-- The line of an error, in the catch clauses of both front ends. -/
def errorLine (e : Err) : Str :=
  if e.str ≠ [] then "#Error: ".toList ++ e.str ++ "\n".toList else []

/-- What is written for one request. -/
def replyText : Except Err Str → Str
  | .ok answer => answer ++ [nl] ++ "#OK\n".toList
  | .error e => errorLine e

/-- What a front end leaves behind: its output, the exception that leaves it, and
the state of the connection. -/
structure Session (σ : Type) where
  out : Str
  ret : Except Err Unit
  state : σ

namespace FrontEnd

/-- The loop over the requests: an error of one request does not end it. -/
def loop (F : FrontEnd σ) : List (Except Err (List Str)) → σ → Str × σ
  | [], s => ([], s)
  | .error e :: rs, s =>
    let r := F.loop rs s
    (errorLine e ++ r.1, r.2)
  | .ok pars :: rs, s =>
    if pars = [] then ([], s)
    else
      let o := F.request pars s
      let r := F.loop rs o.2
      (replyText o.1 ++ r.1, r.2)

/-- The body of `use_dev` and `use_srv`. -/
def run (F : FrontEnd σ) (D : Downloader σ) (rs : List (Except Err (List Str))) (s : σ) :
    Session σ :=
  match F.opening s with
  | (.error e, s) => ⟨F.header ++ errorLine e, .ok (), s⟩
  | (.ok _, s) =>
    let r := F.loop rs s
    let o := D.get "release_all" [] [] r.2
    ⟨F.header ++ "#OK\n".toList ++ r.1, o.1.map fun _ => (), o.2⟩

/-- The outcomes of the requests: a bad input line, or what the server says. -/
def outcomes (F : FrontEnd σ) : List (Except Err (List Str)) → σ → List (Except Err Str)
  | [], _ => []
  | .error e :: rs, s => .error e :: F.outcomes rs s
  | .ok pars :: rs, s =>
    if pars = [] then []
    else
      let o := F.request pars s
      o.1 :: F.outcomes rs o.2

/-- **One piece of output for each request.** -/
theorem loop_out (F : FrontEnd σ) (rs : List (Except Err (List Str))) (s : σ) :
    (F.loop rs s).1 = (F.outcomes rs s).flatMap replyText := by
  induction rs generalizing s with
  | nil => rfl
  | cons r rs ih =>
    rcases r with e | pars
    · simp only [loop, outcomes, List.flatMap_cons, ih]
      rfl
    · rw [loop, outcomes]
      split
      · rfl
      · simp only [List.flatMap_cons, ih]

/-- After a greeting the output is that of the loop. -/
theorem run_out (F : FrontEnd σ) (D : Downloader σ) (rs : List (Except Err (List Str)))
    {s s' : σ} (h : F.opening s = (.ok (), s')) :
    (F.run D rs s).out =
      F.header ++ "#OK\n".toList ++ (F.outcomes rs s').flatMap replyText := by
  rw [← loop_out, run, h]

end FrontEnd

end Device2
