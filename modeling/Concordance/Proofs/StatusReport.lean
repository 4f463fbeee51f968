import Concordance.Proofs.CacheStorage
import Concordance.Proofs.DataDirectory
import Concordance.Proofs.SingleLine
import Concordance.Proofs.TextLines

/-!
# What a status report says about the next build

A status report and a build find out on their own whether the cache can be used. They never differ:
the cache is reported as valid exactly if a build that comes next takes its index from it, and then
both give the same sizes (`status_foretells_build`). The report changes nothing, except that the data
directory is made as for every task.

The length of the cache is another matter. A report in JSON gives it for every file that is not empty.
A report in lines has one line on the cache, and gives the length there only if the cache can be used;
of a file that cannot be used it says just that (`length_of_unusable_cache_is_not_in_lines`).

Reports are read from their end, since the names of directories, which stand before, may have line
breaks in them.
-/

namespace Concordance

open Json

/-! ### How texts end -/

/-- Texts that end differently are different. -/
theorem append_ne_append {b b' : String}
    (h : ¬ (b.toList <:+ b'.toList ∨ b'.toList <:+ b.toList)) (c c' : String) : c ++ b ≠ c' ++ b' := by
  intro heq
  have hb : b.toList <:+ (c ++ b).toList := ⟨c.toList, String.toList_append.symm⟩
  have hb' : b'.toList <:+ (c ++ b).toList := ⟨c'.toList, by rw [heq, String.toList_append]⟩
  exact h (List.suffix_or_suffix_of_suffix hb hb')

/-- A number before the same words is the same number. -/
theorem bytes_inj {before before' : String} {m n : Nat}
    (h : before ++ (" (" ++ toString m ++ " bytes)") = before' ++ (" (" ++ toString n ++ " bytes)")) :
    m = n := by
  have hlist (b : String) (k : Nat) : (b ++ (" (" ++ toString k ++ " bytes)")).toList =
      (b.toList ++ [' ']) ++ '(' :: Nat.toDigits 10 k ++ " bytes)".toList := by
    rw [String.toList_append, String.toList_append, String.toList_append,
      Nat.toString_eq_ofList_toDigits, String.toList_ofList]
    simp
  have hcancel := congrArg String.toList h
  rw [hlist, hlist] at hcancel
  exact append_cons_digits_inj (by decide) (by decide) (List.append_cancel_right hcancel)

/-! ### Reading a report -/

namespace Outcome

/-- The member with the given name of the JSON object in the output. -/
def member? (o : Outcome) (name : String) : Option RawJson :=
  (((read? (octetsOf o.output)).bind asObject?).bind namedMembers?).bind (·.lookup name)

/-- The line on the cache of a report in lines, which is the third from the end, ends with the given
words. -/
def SaysOfCache (o : Outcome) (words : String) : Prop :=
  ∃ before, (textLines o.output).reverse[2]? = some (before ++ words)

/-- The report gives this length for the cache. -/
def ReportsBytes (o : Outcome) (json : Bool) (n : Nat) : Prop :=
  if json then (o.member? "cache_bytes").bind asNatural? = some n
  else o.SaysOfCache (" (" ++ toString n ++ " bytes)")

/-- The report says that the cache can be used; in lines it does so by giving its length. -/
def ReportsValid (o : Outcome) (json : Bool) : Prop :=
  if json then (o.member? "cache_valid").bind asBool? = some true
  else ∃ n, o.ReportsBytes false n

/-- The report gives these numbers of terms and documents. -/
def ReportsSizes (o : Outcome) (json : Bool) (terms documents : Nat) : Prop :=
  if json then
    (o.member? "terms").bind asNatural? = some terms ∧
      (o.member? "documents").bind asNatural? = some documents
  else
    (textLines o.output).reverse.take 2 =
      ["Documents: " ++ toString documents, "Terms: " ++ toString terms]

/-- The notices of a build begin with the one that the cache is up to date. -/
def IsUpToDate (o : Outcome) (cache : Path) : Prop :=
  ("Index cache is up to date: " ++ cache.text ++ "\n").toList <+: o.diagnostics.toList

theorem member?_of_object {o : Outcome} {members : List (String × Json Nat String)}
    (h : o.output = (Json.object members).toText ++ "\n") (name : String) :
    o.member? name = (members.map fun m ↦ (m.1, raw m.2)).lookup name := by
  rw [member?, h, read?_toText_newline, Option.bind_some, asObject?_raw, Option.bind_some,
    namedMembers?_raw, Option.bind_some]

end Outcome

/-- There is a file of this length at the path, and it is not empty. -/
def Volume.HasFile (v : Volume) (p : Path) (length : Nat) : Prop :=
  ∃ content, v.nodeAt p = .ok (.file content) ∧ content ≠ [] ∧ content.length = length

namespace Volume

variable {v : Volume} {p : Path} {s : Settings} {x : Index}

theorem cacheLength?_eq_some_iff {n : Nat} : v.cacheLength? p = some n ↔ v.HasFile p n := by
  rw [cacheLength?, HasFile]
  rcases v.nodeAt p with fault | - | content
  · simp
  · simp
  · rcases content with - | ⟨o, rest⟩ <;> simp

/-- A cache that can be used has a length. -/
theorem exists_cacheLength?_of_loadCache? (h : v.loadCache? p s = some x) :
    ∃ n, v.cacheLength? p = some n := by
  rw [loadCache?] at h
  split at h
  · next n _ hn _ => exact ⟨n, hn⟩
  · exact absurd h (by simp)

end Volume

namespace Assignment

/-! ### Reports in lines -/

/-- The words at the end of the line on the cache. -/
def Status.verdict (s : Status) : String :=
  match s.length?, s.index? with
  | none, _ => "none"
  | some n, some _ => " (" ++ toString n ++ " bytes)"
  | some _, none => " (unusable with these settings)"

theorem Status.newline_not_mem_verdict (s : Status) : '\n' ∉ s.verdict.toList := by
  rw [verdict]
  split
  · decide
  · next n _ _ _ =>
    exact newline_not_mem_append (newline_not_mem_append (by decide) (newline_not_mem_toString n))
      (by decide)
  · decide

variable {a : Assignment} {v : Volume} {n : Nat}

/-- The line on the cache ends with what is said of the cache, behind its path. -/
theorem exists_cacheLine_eq (a : Assignment) (s : Status) :
    ∃ before, a.cacheLine s = before ++ s.verdict ++ "\n" := by
  rw [cacheLine, Status.verdict]
  rcases s.length? with - | n
  · exact ⟨"Index cache: ", rfl⟩
  · rcases s.index? with - | x
    · refine ⟨"Index cache: " ++ a.cache.text, ?_⟩
      simp only [String.append_assoc]
    · refine ⟨"Index cache: " ++ a.cache.text, ?_⟩
      simp only [String.append_assoc]

/-- A report in lines ends with three known lines. -/
theorem exists_statusText_eq (a : Assignment) (s : Status) :
    ∃ before, a.statusText s = before ++ s.verdict ++ "\n" ++ ("Terms: " ++ toString s.terms) ++ "\n"
      ++ ("Documents: " ++ toString s.documents) ++ "\n" := by
  obtain ⟨before, hcache⟩ := a.exists_cacheLine_eq s
  refine ⟨"Data directory: " ++ a.dataDirectory.text ++ "\n"
    ++ "Corpus: " ++ a.corpus.text ++ (if s.hasCorpus then "" else " (missing)") ++ "\n"
    ++ "Tokenizer: " ++ title a.request.alphabet
    ++ (if a.request.html then ", markup stripped" else "") ++ "\n" ++ before, ?_⟩
  unfold statusText
  simp only [hcache, String.append_assoc]

/-- **A report in lines ends with the line on the cache and the two sizes.** -/
theorem exists_reverse_textLines_statusText (a : Assignment) (s : Status) :
    ∃ before rest, (textLines (a.statusText s)).reverse =
      ("Documents: " ++ toString s.documents) :: ("Terms: " ++ toString s.terms) ::
        (before ++ s.verdict) :: rest := by
  obtain ⟨before, htext⟩ := a.exists_statusText_eq s
  have hterms : '\n' ∉ ("Terms: " ++ toString s.terms).toList :=
    newline_not_mem_append (by decide) (newline_not_mem_toString s.terms)
  have hdocuments : '\n' ∉ ("Documents: " ++ toString s.documents).toList :=
    newline_not_mem_append (by decide) (newline_not_mem_toString s.documents)
  obtain ⟨ls, l, hcache⟩ := exists_textLines_append s.newline_not_mem_verdict before
  refine ⟨l, ls.reverse, ?_⟩
  rw [htext, @String.append_assoc _ _ "\n", textLines_append, textLines_line hdocuments,
    @String.append_assoc _ _ "\n", textLines_append, textLines_line hterms, hcache]
  simp

/-- What a report says of the cache is what was found out of it. -/
theorem saysOfCache_verdict (a : Assignment) (v : Volume) :
    (a.status v false).SaysOfCache (a.statusOn v).verdict := by
  obtain ⟨before, rest, hlines⟩ := a.exists_reverse_textLines_statusText (a.statusOn v)
  refine ⟨before, ?_⟩
  show (textLines (a.statusText (a.statusOn v))).reverse[2]? = _
  rw [hlines]
  rfl

/-- Whatever else a report in lines says of the cache ends as the verdict does. -/
theorem exists_append_eq_of_saysOfCache {words : String}
    (h : (a.status v false).SaysOfCache words) :
    ∃ before before', before ++ words = before' ++ (a.statusOn v).verdict := by
  obtain ⟨before, hwords⟩ := h
  obtain ⟨before', hverdict⟩ := a.saysOfCache_verdict v
  rw [hwords] at hverdict
  exact ⟨before, before', Option.some.inj hverdict⟩

/-- **A report in lines gives the length of a cache that can be used**, and of no other. -/
theorem reportsBytes_lines_iff :
    (a.status v false).ReportsBytes false n ↔
      (a.statusOn v).length? = some n ∧ (a.statusOn v).index?.isSome = true := by
  have hverdict := a.saysOfCache_verdict v
  rw [Status.verdict] at hverdict
  constructor
  · intro h
    obtain ⟨before, before', heq⟩ := exists_append_eq_of_saysOfCache h
    have hwords : before ++ (" (" ++ toString n ++ " bytes)") =
        before ++ (" (" ++ toString n) ++ " bytes)" := by
      simp only [String.append_assoc]
    rw [Status.verdict] at heq
    split at heq
    · rw [hwords] at heq
      exact absurd heq (append_ne_append (by decide) _ _)
    · next m x hlength hindex =>
      rw [hlength, hindex, bytes_inj heq]
      exact ⟨rfl, rfl⟩
    · rw [hwords] at heq
      exact absurd heq (append_ne_append (by decide) _ _)
  · rintro ⟨hlength, hindex⟩
    obtain ⟨x, hx⟩ := Option.isSome_iff_exists.1 hindex
    rw [hlength, hx] at hverdict
    exact hverdict

/-! ### Reports in JSON -/

theorem reportsBytes_json_iff :
    (a.status v true).ReportsBytes true n ↔ (a.statusOn v).length? = some n := by
  show (Outcome.member? _ "cache_bytes").bind asNatural? = some n ↔ _
  rw [Outcome.member?_of_object rfl]
  have hmember : asNatural? (raw ((a.statusOn v).length?.elim .null .number)) =
      (a.statusOn v).length? := by
    rcases (a.statusOn v).length? with - | n
    · rfl
    · exact asNatural?_raw n
  simp [List.lookup_cons, hmember]

theorem reportsValid_json_iff :
    (a.status v true).ReportsValid true ↔ (a.statusOn v).index?.isSome = true := by
  show (Outcome.member? _ "cache_valid").bind asBool? = some true ↔ _
  rw [Outcome.member?_of_object rfl]
  simp [List.lookup_cons, raw, asBool?]

/-! ### Reports of either form -/

/-- **Both forms of a report call the same caches valid.** -/
theorem reportsValid_iff (json : Bool) :
    (a.status v json).ReportsValid json ↔ (a.statusOn v).index?.isSome = true := by
  rcases json with - | -
  · show (∃ n, (a.status v false).ReportsBytes false n) ↔ _
    simp only [reportsBytes_lines_iff, exists_and_right, and_iff_right_iff_imp]
    intro h
    obtain ⟨x, hx⟩ := Option.isSome_iff_exists.1 h
    exact v.exists_cacheLength?_of_loadCache? hx
  · exact reportsValid_json_iff

/-- Both forms give the sizes of the index in the cache, which are zero without one. -/
theorem reportsSizes (a : Assignment) (v : Volume) (json : Bool) :
    (a.status v json).ReportsSizes json (a.statusOn v).terms (a.statusOn v).documents := by
  rcases json with - | -
  · obtain ⟨before, rest, hlines⟩ := a.exists_reverse_textLines_statusText (a.statusOn v)
    show (textLines (a.statusText (a.statusOn v))).reverse.take 2 = _
    rw [hlines]
    rfl
  · show (Outcome.member? _ "terms").bind asNatural? = _ ∧
      (Outcome.member? _ "documents").bind asNatural? = _
    rw [Outcome.member?_of_object rfl, Outcome.member?_of_object rfl]
    simp [List.lookup_cons, asNatural?_raw]

/-! ### Builds -/

theorem provide_of_loadCache? {x : Index} (h : v.loadCache? a.cache a.request.settings = some x) :
    a.supply.provide v = (v, ⟨x, .cache⟩) := by
  have hload : v.loadCache? a.supply.cache a.supply.settings = some x := h
  rw [Supply.provide, hload]

/-- A cache that cannot be used is not used, whatever comes of the survey. -/
theorem origin_provide_of_loadCache? (h : v.loadCache? a.cache a.request.settings = none) :
    (a.supply.provide v).2.origin ≠ .cache := by
  have hload : v.loadCache? a.supply.cache a.supply.settings = none := h
  rw [Supply.provide, hload]
  rcases (a.supply.rebuild v).2 with - | x <;> simp [Supplied.ofSurvey]

/-- **A supply uses the cache exactly if the report found an index in it.** -/
theorem origin_provide_eq_cache_iff :
    (a.supply.provide v).2.origin = .cache ↔ (a.statusOn v).index?.isSome = true := by
  show _ ↔ (v.loadCache? a.cache a.request.settings).isSome = true
  rcases hload : v.loadCache? a.cache a.request.settings with - | x
  · simp [origin_provide_of_loadCache? hload]
  · simp [provide_of_loadCache? hload]

/-- How notices begin that are not on a cache. -/
def otherNotices : List String := ["  Skipped ", "Indexed ", "No corpus found at "]

/-- What is written of any other source begins with a text of its own. -/
theorem exists_isPrefix_notices (a : Assignment) {o : Origin} (h : o ≠ .cache) :
    ∃ lead ∈ otherNotices, lead.toList <+: (a.notices o).toList := by
  unfold notices
  rcases o with - | report | -
  · exact absurd rfl h
  · rcases hfailures : report.failures with - | ⟨f, fs⟩
    · refine ⟨"Indexed ", by decide, ?_⟩
      simp [hfailures]
    · refine ⟨"  Skipped ", by decide, ?_⟩
      simp [hfailures, String.join_cons]
  · refine ⟨"No corpus found at ", by decide, ?_⟩
    simp

/-- **Only a build from the cache says that the cache is up to date.** -/
theorem isUpToDate_build_iff :
    (a.build v false).IsUpToDate a.cache ↔ (a.supply.provide v).2.origin = .cache := by
  rw [build, if_neg Bool.false_ne_true]
  rcases a.supply.provide v with ⟨w, x⟩
  have hnotices : (a.notices x.origin).toList <+: (a.notices x.origin ++ toString x.index.termCount
      ++ " terms, " ++ toString x.index.documentCount ++ " documents\n").toList := by
    simp
  show _ <+: (a.notices x.origin ++ _ ++ _ ++ _ ++ _).toList ↔ x.origin = .cache
  constructor
  · intro hprefix
    by_contra horigin
    obtain ⟨lead, hlead, hother⟩ := a.exists_isPrefix_notices horigin
    -- The first notice would begin in two ways of which neither begins the other.
    have hapart : ∀ lead ∈ otherNotices,
        ¬ ("Index cache".toList <+: lead.toList ∨ lead.toList <+: "Index cache".toList) := by
      decide
    have hcache : "Index cache".toList <+:
        ("Index cache is up to date: " ++ a.cache.text ++ "\n").toList := by
      simp
    exact hapart lead hlead
      (List.prefix_or_prefix_of_prefix (hcache.trans hprefix) (hother.trans hnotices))
  · intro horigin
    rw [horigin] at hnotices ⊢
    exact hnotices

/-- A build with a cache that can be used says so, and gives the sizes of the index. -/
theorem build_of_loadCache? {x : Index} (h : v.loadCache? a.cache a.request.settings = some x) :
    a.build v false =
      .success v "" ("Index cache is up to date: " ++ a.cache.text ++ "\n" ++
        toString x.termCount ++ " terms, " ++ toString x.documentCount ++ " documents\n") := by
  rw [build, if_neg Bool.false_ne_true, provide_of_loadCache? h]
  rfl

/-! ### A report and the build after it -/

/-- What a status report says about the build that comes next. The two outcomes are given in this
order. -/
structure Foretells (a : Assignment) (json : Bool) (reported built : Outcome) : Prop where
  /-- Both come to a good end. -/
  ended : reported.code = 0 ∧ built.code = 0
  /-- The cache is reported as valid exactly if the build says that it is up to date. -/
  valid_iff : reported.ReportsValid json ↔ built.IsUpToDate a.cache
  /-- The build says so exactly if it takes its index from the cache. -/
  origin_iff : built.IsUpToDate a.cache ↔ (a.supply.provide reported.volume).2.origin = .cache
  /-- Both then give the same numbers of terms and documents. -/
  sizes : reported.ReportsValid json → ∃ terms documents,
    reported.ReportsSizes json terms documents ∧
      built.diagnostics = "Index cache is up to date: " ++ a.cache.text ++ "\n" ++
        toString terms ++ " terms, " ++ toString documents ++ " documents\n"
  /-- In JSON, the length of the cache is reported exactly if it is a file that is not empty. -/
  bytes_json : json = true → ∀ n, reported.ReportsBytes json n ↔ reported.volume.HasFile a.cache n
  /-- In lines, it is reported exactly if the file can be used besides. -/
  bytes_lines : json = false → ∀ n, reported.ReportsBytes json n ↔
    reported.volume.HasFile a.cache n ∧ built.IsUpToDate a.cache
  /-- In lines, a file that is not empty but cannot be used is called unusable. -/
  unusable : json = false → ∀ n, reported.volume.HasFile a.cache n →
    ¬ built.IsUpToDate a.cache → reported.SaysOfCache " (unusable with these settings)"
  /-- In lines, there is no cache unless there is a file that is not empty. -/
  missing : json = false → (∀ n, ¬ reported.volume.HasFile a.cache n) → reported.SaysOfCache "none"

/-- **A status report foretells the build after it** once their directories are found. -/
theorem foretells_build (a : Assignment) (v : Volume) (json : Bool) :
    a.Foretells json (a.status v json) (a.build v false) := by
  have husable : (a.build v false).IsUpToDate a.cache ↔ (a.statusOn v).index?.isSome = true :=
    isUpToDate_build_iff.trans origin_provide_eq_cache_iff
  have hlength (n : Nat) : (a.statusOn v).length? = some n ↔ v.HasFile a.cache n :=
    Volume.cacheLength?_eq_some_iff
  refine ⟨⟨rfl, rfl⟩, (reportsValid_iff json).trans husable.symm, isUpToDate_build_iff,
    fun hvalid ↦ ?_, ?_, ?_, ?_, ?_⟩
  · obtain ⟨x, hx⟩ := Option.isSome_iff_exists.1 ((reportsValid_iff json).1 hvalid)
    refine ⟨_, _, a.reportsSizes v json, ?_⟩
    rw [build_of_loadCache? hx, Status.terms, Status.documents, hx]
    rfl
  · rintro rfl n
    exact reportsBytes_json_iff.trans (hlength n)
  · rintro rfl n
    rw [reportsBytes_lines_iff, hlength, husable]
    rfl
  · rintro rfl n hfile hunusable
    have hverdict := a.saysOfCache_verdict v
    have hindex : (a.statusOn v).index? = none := by
      rw [husable] at hunusable
      simpa using hunusable
    rwa [Status.verdict, (hlength n).2 hfile, hindex] at hverdict
  · rintro rfl hnone
    have hverdict := a.saysOfCache_verdict v
    have hmissing : (a.statusOn v).length? = none :=
      Option.eq_none_iff_forall_not_mem.2 fun n hn ↦ hnone n ((hlength n).1 hn)
    rwa [Status.verdict, hmissing] at hverdict

end Assignment

namespace Volume

variable {v w : Volume} {e : Environment} {d : Path} {r : Request} {arguments arguments' : List String}
  {json : Bool}

/-- **A status report tells the truth about the build that comes next**, whatever is in the place of
the cache, as long as the data directory can be found and made. It changes nothing, except that the
data directory is made, with directories above it, where it is missing. -/
theorem status_foretells_build (hread : Request.read arguments = .ok r)
    (htask : r.task = .status json)
    (hread' : Request.read arguments' = .ok { r with task := .build false })
    (hdata : v.prepareData e r.dataDirectory? = (w, .ok d)) (input input' : Octets) :
    Assignment.Foretells ⟨r, d, e.corpus r.corpus?⟩ json (v.runCommand e arguments input)
        ((v.runCommand e arguments input).volume.runCommand e arguments' input') ∧
      v.Grown (fun q ↦ ∃ p ∈ d :: d.ancestors, p.place v.here = q) (fun _ ↦ False)
        (v.runCommand e arguments input).volume ∧
      (v.isDirectory d = true → (v.runCommand e arguments input).volume = v) := by
  have hreported : v.runCommand e arguments input =
      Assignment.status ⟨r, d, e.corpus r.corpus?⟩ w json := by
    rw [runCommand_eq_perform hread (by simp [htask]) hdata, Assignment.perform]
    simp only [htask]
  have hvolume : (v.runCommand e arguments input).volume = w := by
    rw [hreported]
    rfl
  -- The report has made the data directory, so the build finds it.
  have hbuilt : w.runCommand e arguments' input' =
      Assignment.build ⟨r, d, e.corpus r.corpus?⟩ w false := by
    rw [runCommand_eq_perform hread' (by simp) (prepareData_of_prepareData hdata)]
    rfl
  rw [hvolume, hbuilt, hreported]
  exact ⟨Assignment.foretells_build _ w json, grown_of_prepareData hdata,
    fun hd ↦ eq_of_prepareData hdata hd⟩

/-- A volume with nothing on it but the cache of one document. -/
def onlyCache : Volume :=
  ((Volume.mk [] ∅).put ["d"] .directory).put ["d", "index.json"]
    (.file (octetsOf
      "\x7b\"version\":2,\"complete\":true,\"universe\":[1],\"postings\":\x7b\"кот\":[1]\x7d\x7d"))

/-- The status of that cache in lines. -/
def onlyStatus : Request := ⟨some ⟨"d"⟩, none, .cyrillic, false, false, .status false⟩

/-- A volume with a cache and without a corpus: the build that follows can only use the cache. -/
theorem status_foretells_build_of_onlyCache :
    Assignment.Foretells ⟨onlyStatus, ⟨"d"⟩, ⟨"Pages"⟩⟩ false
      (onlyCache.runCommand ∅ ["--data-dir", "d", "status"] [])
      ((onlyCache.runCommand ∅ ["--data-dir", "d", "status"] []).volume.runCommand ∅
        ["build", "--data-dir", "d"] []) ∧
      (onlyCache.runCommand ∅ ["--data-dir", "d", "status"] []).output =
        "Data directory: d\nCorpus: Pages (missing)\nTokenizer: Cyrillic\n" ++
          "Index cache: d/index.json (70 bytes)\nTerms: 1\nDocuments: 1\n" := by
  have hread : Request.read ["--data-dir", "d", "status"] = .ok onlyStatus := by decide +kernel
  have hread' : Request.read ["build", "--data-dir", "d"] =
      .ok { onlyStatus with task := .build false } := by decide +kernel
  have hdata : onlyCache.prepareData ∅ onlyStatus.dataDirectory? = (onlyCache, .ok ⟨"d"⟩) :=
    prepareData_eq_ok_iff.2 ⟨rfl, makeChain_of_isDirectory (by decide +kernel) _⟩
  exact ⟨(status_foretells_build hread rfl hread' hdata [] []).1, by decide +kernel⟩

/-- In the place of the cache there is a file with something else in it. -/
def strayFile : Volume :=
  ((Volume.mk [] ∅).put ["d"] .directory).put ["d", "index.json"] (.file [0x78])

/-- The file is there and is not empty, but a report in lines does not give its length. -/
theorem length_of_unusable_cache_is_not_in_lines :
    strayFile.HasFile ⟨"d/index.json"⟩ 1 ∧
      strayFile.runCommand ∅ ["--data-dir", "d", "status"] [] =
        .success strayFile ("Data directory: d\nCorpus: Pages (missing)\nTokenizer: Cyrillic\n" ++
          "Index cache: d/index.json (unusable with these settings)\n" ++
          "Terms: 0\nDocuments: 0\n") "" ∧
      ∀ n, ¬ (strayFile.runCommand ∅ ["--data-dir", "d", "status"] []).ReportsBytes false n := by
  refine ⟨⟨[0x78], by decide +kernel, by decide, rfl⟩, by decide +kernel, ?_⟩
  rintro n ⟨before, hbytes⟩
  have hline : (textLines
      (strayFile.runCommand ∅ ["--data-dir", "d", "status"] []).output).reverse[2]? =
        some ("Index cache: d/index.json" ++ " (unusable with these settings)") := by
    decide +kernel
  rw [hline, Option.some.injEq, ← String.append_assoc] at hbytes
  exact append_ne_append (by decide) _ _ hbytes

end Volume

end Concordance
