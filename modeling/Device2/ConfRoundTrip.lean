/-
Device2/ConfRoundTrip.lean

The device file as a text: written and read again.

`Config` is a map of devices that a file can describe, with the proof that it is
one: `read_conf` gives no others, and each of them can be written.  A line for each
device, in any order, with empty lines and comments anywhere (`Config.Layout`), is a
text from which `read_words` and `read_conf` get the same devices back
(`conf_roundTrip`): nothing depends on the layout, and no driver name and no option
value is out of reach, whatever characters it has.

The comparison is by the grammar of the file (`ConfGrammar`): the lines are well
formed, no two have the same name, and each stands for its device.
-/
import Device2.ReadWords
import Device2.ConfGrammar

namespace Device2

open Std DevManager

variable {Drv : Type}

/-! ### Maps of devices and their lines -/

/-- What a device file can say: devices as they are made from a line, with names and
options a line can have. -/
structure Config (Drv : Type) where
  devices : ExtTreeMap Str (Device Drv)
  fresh : ∀ k (d : Device Drv), devices[k]? = some d → Fresh k d
  name_ok : ∀ k ∈ devices, k ≠ [] ∧ ∀ c ∈ k, c ∉ reservedChars
  opts_ok : ∀ (k : Str) (d : Device Drv), devices[k]? = some d → [] ∉ d.drvArgs

/-- The words of the line for a device. -/
def confWords (k : Str) (d : Device Drv) : List Str :=
  k :: d.drvName :: d.drvArgs.toList.flatMap fun p => ['-' :: p.1, p.2]

/-- A text with one line for each device, and other lines that say nothing. -/
structure Config.Layout (C : Config Drv) where
  lines : List TextLine
  perm : (lines.filterMap TextLine.read).Perm
    (C.devices.toList.map fun p => .ok (confWords p.1 p.2))

/-- The text. -/
def Config.Layout.text {C : Config Drv} (L : C.Layout) : Str := L.lines.flatMap TextLine.text

/-- Nothing but the devices, in the order of their names. -/
def Config.layout (C : Config Drv) : C.Layout where
  lines := C.devices.toList.map fun p => .words (confWords p.1 p.2) (List.cons_ne_nil _ _)
  perm := by
    rw [List.filterMap_map]
    exact (List.filterMap_eq_map (f := fun p : Str × Device Drv =>
      (.ok (confWords p.1 p.2) : Except Err (List Str)))).symm ▸ .refl _

/-! ### Options -/

/-- In a list without two entries of one key, the lookups are the entries. -/
theorem lookup_iff_mem {κ ν : Type} [BEq κ] [LawfulBEq κ] {l : List (κ × ν)}
    (h : (l.map Prod.fst).Nodup) {k : κ} {v : ν} : l.lookup k = some v ↔ (k, v) ∈ l := by
  induction l with
  | nil => simp
  | cons p l ih =>
    obtain ⟨k', v'⟩ := p
    obtain ⟨hk, h⟩ := List.nodup_cons.mp h
    rw [List.lookup_cons, List.mem_cons]
    by_cases he : k = k'
    · subst he
      have hno : (k, v) ∉ l := fun hm => hk (List.mem_map.mpr ⟨_, hm, rfl⟩)
      simp [hno, eq_comm]
    · have hbeq : (k == k') = false := by simpa using he
      simp [hbeq, he, ih h]

theorem wordPairs_flatMap (l : List (Str × Str)) :
    wordPairs (l.flatMap fun p => ['-' :: p.1, p.2]) = l.map fun p => ('-' :: p.1, p.2) := by
  induction l with
  | nil => rfl
  | cons p l ih => exact congrArg (('-' :: p.1, p.2) :: ·) ih

theorem nodup_keys_toList (opt : Opt) : (opt.toList.map Prod.fst).Nodup := by
  rw [List.Nodup, List.pairwise_map]
  exact ExtTreeMap.distinct_keys_toList.imp fun h he => h (Std.compare_eq_iff_eq.mpr he)

/-- The options of a device are found in its line. -/
theorem lastValue_toList (opt : Opt) (name : Str) :
    lastValue (opt.toList.flatMap fun p => ['-' :: p.1, p.2]) name = opt[name]? := by
  have hkeys : (((opt.toList.map fun p => ('-' :: p.1, p.2)).reverse).map Prod.fst).Nodup := by
    rw [List.map_reverse, List.nodup_reverse, List.map_map]
    have hdash : (Prod.fst ∘ fun p : Str × Str => ('-' :: p.1, p.2)) = (fun k => '-' :: k) ∘ Prod.fst := rfl
    rw [hdash, ← List.map_map]
    exact (nodup_keys_toList opt).map fun _ _ h => (List.cons.inj h).2
  rw [lastValue, wordPairs_flatMap]
  ext v
  rw [lookup_iff_mem hkeys, List.mem_reverse, List.mem_map]
  constructor
  · rintro ⟨p, hp, he⟩
    cases he
    exact ExtTreeMap.mem_toList_iff_getElem?_eq_some.mp hp
  · intro h
    exact ⟨(name, v), ExtTreeMap.mem_toList_iff_getElem?_eq_some.mpr h, rfl⟩

/-! ### Lines and their devices -/

namespace Config

variable {C : Config Drv} {k : Str} {d : Device Drv}

theorem lineOk (C : Config Drv) (h : C.devices[k]? = some d) : LineOk (confWords k d) := by
  have hk : k ∈ C.devices := ExtTreeMap.mem_iff_isSome_getElem?.mpr (by rw [h]; rfl)
  obtain ⟨hne, hchars⟩ := C.name_ok k hk
  refine ⟨k, d.drvName, _, rfl, hne, hchars, ?_, ?_⟩
  · have heven : ∀ l : List (Str × Str), (l.flatMap fun p => ['-' :: p.1, p.2]).length = 2 * l.length := by
      intro l
      induction l with
      | nil => rfl
      | cons p l ih => rw [List.flatMap_cons, List.length_append, ih, List.length_cons]; simp; omega
    rw [heven]
    omega
  · rw [wordPairs_flatMap]
    intro p hp
    obtain ⟨q, hq, rfl⟩ := List.mem_map.mp hp
    have hmem : q.1 ∈ d.drvArgs := ExtTreeMap.mem_iff_isSome_getElem?.mpr
      (by rw [ExtTreeMap.mem_toList_iff_getElem?_eq_some.mp hq]; rfl)
    have hname : q.1 ≠ [] := fun he => C.opts_ok k d h (he ▸ hmem)
    exact ⟨rfl, Nat.succ_le_succ (List.length_pos_iff.mpr hname)⟩

/-- The line of a device stands for it, and for nothing else. -/
theorem describes_iff (C : Config Drv) {k' : Str} {d' : Device Drv} (h : C.devices[k]? = some d) :
    Describes (confWords k d) k' d' ↔ k' = k ∧ d' = d := by
  obtain ⟨drvName, drvArgs, rfl⟩ := C.fresh k d h
  constructor
  · rintro ⟨drv, args, opt, heq, rfl, hopt⟩
    cases heq
    -- the options are what the line says of them
    have hargs : opt = drvArgs := ExtTreeMap.ext_getElem? fun {n} => by
      rw [hopt n, lastValue_toList]
    exact ⟨rfl, by rw [hargs]⟩
  · rintro ⟨rfl, rfl⟩
    exact ⟨drvName, _, drvArgs, rfl, rfl, fun name => (lastValue_toList drvArgs name).symm⟩

/-- The lines of the text, as the grammar has them. -/
theorem Layout.exists_lines (L : C.Layout) (junk : Char) :
    ∃ ls : List ConfLine, confLines junk L.text = ls.map ConfLine.read ∧
      (ls.map ConfLine.words).Perm (C.devices.toList.map fun p => confWords p.1 p.2) := by
  have hread := confLines_text junk L.lines
  have hcalls : ∀ (rs : List ReadWords), (∀ r ∈ rs, ∃ ws, r.words = .ok ws ∧ ws ≠ []) →
      ∃ ls : List ConfLine, rs = ls.map ConfLine.read := by
    intro rs
    induction rs with
    | nil => exact fun _ => ⟨[], rfl⟩
    | cons r rs ih =>
      intro h
      obtain ⟨⟨ws, hws, hne⟩, h⟩ := List.forall_mem_cons.mp h
      obtain ⟨ls, rfl⟩ := ih h
      refine ⟨⟨r.line, ws, hne⟩ :: ls, ?_⟩
      rw [List.map_cons, ConfLine.read, ← hws]
  obtain ⟨ls, hls⟩ := hcalls (confLines junk L.text) fun r hr => by
    have hmem := L.perm.mem_iff.mp (hread ▸ List.mem_map_of_mem hr)
    obtain ⟨p, -, hp⟩ := List.mem_map.mp hmem
    exact ⟨_, hp.symm, List.cons_ne_nil _ _⟩
  refine ⟨ls, hls, ?_⟩
  have hperm := L.perm
  rw [← hread, show L.lines.flatMap TextLine.text = L.text from rfl, hls, List.map_map] at hperm
  have hinj : Function.Injective (Except.ok : List Str → Except Err (List Str)) := fun _ _ h =>
    Except.ok.inj h
  rw [← List.map_perm_map_iff hinj, List.map_map, List.map_map]
  exact hperm

/-- **Written and read again.** -/
theorem parseConf_layout (L : C.Layout) (junk : Char) (devfile : Str) :
    parseConf devfile (some (confLines junk L.text)) = .ok C.devices := by
  obtain ⟨ls, hls, hperm⟩ := L.exists_lines junk
  have hline : ∀ l ∈ ls, ∃ k d, C.devices[k]? = some d ∧ l.words = confWords k d := by
    intro l hl
    obtain ⟨p, hp, he⟩ := List.mem_map.mp (hperm.mem_iff.mp (List.mem_map_of_mem hl))
    exact ⟨p.1, p.2, ExtTreeMap.mem_toList_iff_getElem?_eq_some.mp hp, he.symm⟩
  have hgrammar : Grammar ls := by
    refine ⟨fun l hl => ?_, ?_⟩
    · obtain ⟨k, d, hd, he⟩ := hline l hl
      rw [he]
      exact C.lineOk hd
    · -- the names are the keys of the map
      have hheads := (hperm.map List.head?).nodup_iff
      rw [List.map_map, List.map_map] at hheads
      refine hheads.mpr ?_
      have hkeys : (C.devices.toList.map Prod.fst).Nodup := by
        rw [List.Nodup, List.pairwise_map]
        exact ExtTreeMap.distinct_keys_toList.imp fun h he => h (Std.compare_eq_iff_eq.mpr he)
      have hsome := hkeys.map (Option.some_injective Str)
      rw [List.map_map] at hsome
      exact hsome
  obtain ⟨ret, hret⟩ := (readConfLoop_ok_iff ls (∅ : ExtTreeMap Str (Device Drv))).mpr
    ⟨hgrammar, by simp⟩
  have hdevices : ret = C.devices := by
    refine ExtTreeMap.ext_getElem? fun {k} => ?_
    ext d
    rw [readConfLoop_getElem? hret]
    constructor
    · rintro (⟨l, hl, hdesc⟩ | h)
      · obtain ⟨k', d', hd', he⟩ := hline l hl
        rw [he, C.describes_iff hd'] at hdesc
        rw [hdesc.1, hdesc.2]
        exact hd'
      · simp at h
    · intro hd
      have hmem : confWords k d ∈ ls.map ConfLine.words := hperm.mem_iff.mpr
        (List.mem_map.mpr ⟨(k, d), ExtTreeMap.mem_toList_iff_getElem?_eq_some.mpr hd, rfl⟩)
      obtain ⟨l, hl, he⟩ := List.mem_map.mp hmem
      exact .inl ⟨l, hl, by rw [he, C.describes_iff hd]; exact ⟨rfl, rfl⟩⟩
  rw [parseConf, hls, hret, hdevices]
  rfl

end Config

/-! ### Every file that is accepted -/

/-- No option without a name comes out of a line. -/
theorem readConfOpts_names {args : List Str} {opt opt' : Opt} (h : readConfOpts args opt = .ok opt')
    (hopt : [] ∉ opt) : [] ∉ opt' := by
  fun_induction readConfOpts args opt with
  | case1 => cases h
  | case2 name value rest opt hgood ih =>
    obtain ⟨hlen, -⟩ := not_or.mp hgood
    refine ih h fun hmem => ?_
    rcases mem_insert_iff.mp hmem with he | hin
    · have := congrArg List.length he
      rw [List.length_tail, List.length_nil] at this
      omega
    · exact hopt hin
  | case3 => cases h; exact hopt

/-- What the loop keeps true of the devices it has read. -/
def Legal (ret : ExtTreeMap Str (Device Drv)) : Prop :=
  ∀ (k : Str) d, ret[k]? = some d →
    Fresh k d ∧ (k ≠ [] ∧ ∀ c ∈ k, c ∉ reservedChars) ∧ [] ∉ d.drvArgs

theorem Legal.readConfLine {words : List Str} {ret ret' : ExtTreeMap Str (Device Drv)}
    (h : Legal ret) (hr : readConfLine words ret = .ok ret') : Legal ret' := by
  obtain ⟨dev, drv, args, opt, rfl, hdev, hspan, -, hopts, -, rfl⟩ := readConfLine_ok hr
  intro k d hd
  rw [getElem?_insert_if] at hd
  split at hd
  · subst k
    cases hd
    exact ⟨⟨drv, opt, rfl⟩, ⟨hdev, (span_eq_length_iff dev).mp hspan⟩,
      readConfOpts_names hopts (by simp)⟩
  · exact h k d hd

theorem Legal.readConfLoop {rs : List ReadWords} {ret ret' : ExtTreeMap Str (Device Drv)}
    (h : Legal ret) (hr : readConfLoop rs ret = .ok ret') : Legal ret' := by
  induction rs generalizing ret with
  | nil => cases hr; exact h
  | cons r rs ih =>
    rw [Device2.readConfLoop] at hr
    rcases hw : r.words with e | - | ⟨w, ws⟩
    · simp [hw] at hr
    · simp only [hw] at hr; cases hr; exact h
    · simp only [hw] at hr
      rcases hl : Device2.readConfLine (w :: ws) ret with e | ret₁
      · simp [hl] at hr
      · rw [hl] at hr
        exact ih (h.readConfLine hl) hr

/-- The devices of an accepted file are a configuration. -/
theorem exists_config {devfile : Str} {file : ConfFile} {devices : ExtTreeMap Str (Device Drv)}
    (h : parseConf devfile file = .ok devices) : ∃ C : Config Drv, C.devices = devices := by
  have hlegal : Legal devices := by
    rcases file with - | rs
    · cases h
    · rcases hl : (readConfLoop rs ∅ : Except _ (ExtTreeMap Str (Device Drv))) with e | ret
      · simp [parseConf, hl, Except.mapError] at h
      · simp only [parseConf, hl, Except.mapError] at h
        cases h
        exact Legal.readConfLoop (fun k d hd => by simp at hd) hl
  refine ⟨⟨devices, fun k d hd => (hlegal k d hd).1, fun k hk => ?_, fun k d hd => (hlegal k d hd).2.2⟩, rfl⟩
  obtain ⟨d, hd⟩ := Option.isSome_iff_exists.mp (ExtTreeMap.mem_iff_isSome_getElem?.mp hk)
  exact (hlegal k d hd).2.1

/-- **The round trip of the device file.**  `read_conf` gives the configurations, all
of them and nothing else; and a configuration is read back from a text with a line
for each device, whatever the order of the lines and whatever empty lines and
comments there are between them. -/
theorem conf_roundTrip (junk : Char) :
    {devices : ExtTreeMap Str (Device Drv) | ∃ devfile s,
      parseConf devfile (some (confLines junk s)) = .ok devices} = Set.range Config.devices ∧
    ∀ (C : Config Drv) (L : C.Layout) (devfile : Str),
      parseConf devfile (some (confLines junk L.text)) = .ok C.devices := by
  refine ⟨Set.ext fun devices => ⟨?_, ?_⟩, fun C L devfile => C.parseConf_layout L junk devfile⟩
  · rintro ⟨devfile, s, h⟩
    exact exists_config h
  · rintro ⟨C, rfl⟩
    exact ⟨[], C.layout.text, C.parseConf_layout C.layout junk []⟩

end Device2
