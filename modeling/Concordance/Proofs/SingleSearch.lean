import Concordance.Proofs.Blank
import Concordance.Proofs.DataDirectory
import Concordance.Proofs.Supply
import Concordance.Proofs.TextLines

/-!
# A search and a session of one line

A query can be answered in two ways: by a search, which is given the query as an argument, and by a
session, which is given it as a line of its input. The two agree on every volume
(`search_agrees_with_session`). They take the index from the same supply, so they begin with equal
ones, whatever is in the place of the cache and whatever is left of the corpus; and the session takes
off blanks around the query that the search leaves on, but these do not divide it any differently
(`QueryReader.read_trim`).

What is left apart is what a search makes of a rejected query: it fails and keeps its output empty,
where the session reports the same fault and goes on. Nothing else makes a search fail.
-/

namespace Concordance

/-- **Blanks around a query do not count.** -/
theorem QueryReader.read_trim (r : QueryReader) (query : String) :
    r.read (String.ofList (trim query.toList)) = r.read query := by
  have hpieces : r.pieces (String.ofList (trim query.toList)) = r.pieces query := by
    rw [pieces, pieces, String.toList_ofList, blankFreePieces_trim]
  rw [read, read, hpieces]

namespace Index

/-- Blanks around a query are no part of any of its pieces, so that it is answered alike without
them. -/
theorem search_trim (x : Index) (r : QueryReader) (query : String) :
    x.search r (String.ofList (trim query.toList)) = x.search r query := by
  rw [search, search, r.read_trim]

theorem answerText_trim (x : Index) (r : QueryReader) (showSources : Bool) (query : String) :
    x.answerText r showSources (String.ofList (trim query.toList)) =
      x.answerText r showSources query := by
  rw [answerText, answerText, x.search_trim]

end Index

/-! ### Sessions of one line -/

/-- Only a colon in front makes a line a command. -/
theorem SessionLine.ofText_of_not_colon {line : String}
    (h : (trim line.toList).head? ≠ some ':') :
    ofText line = .query (String.ofList (trim line.toList)) := by
  rw [ofText]
  split
  · next name htrim => exact absurd (by rw [htrim]; rfl) h
  · rfl

/-- **A session whose only line is a query answers it between two prompts** and changes nothing. -/
theorem Session.run_of_query (s : Session) (st : SessionState) {text query : String}
    (hline : textLines text = [query]) (hcolon : (trim query.toList).head? ≠ some ':') :
    s.run st (octetsOf text) =
      ⟨st, s.reader.spelling.prompt ++ st.index.answerText s.reader s.showSources query ++
        s.reader.spelling.prompt, true⟩ := by
  rw [run, lines_octetsOf, hline, List.map_singleton, answerLines, textOf?_octetsOf]
  simp only [SessionLine.ofText_of_not_colon hcolon, answer, answerLines, Index.answerText_trim,
    String.append_empty, String.append_assoc]

/-! ### What a supply depends on -/

/-- A rebuild has the outcome of its survey, whatever comes of keeping it. -/
theorem Supply.snd_rebuild (s : Supply) (v : Volume) : (s.rebuild v).2 = s.survey? v := by
  rw [rebuild]
  split
  · next h => exact h.symm
  · next h => exact h.symm

/-- **What goes wrong while the cache is saved does not change what is supplied.** -/
theorem Supply.snd_provide_of_mishap (s : Supply) (v : Volume) (m : Option Mishap) :
    ({ s with mishap := m }.provide v).2 = (s.provide v).2 := by
  have hload : v.loadCache? { s with mishap := m }.cache { s with mishap := m }.settings =
      v.loadCache? s.cache s.settings := rfl
  rw [provide, provide, hload]
  rcases v.loadCache? s.cache s.settings with - | x
  · show Supplied.ofSurvey _ = Supplied.ofSurvey _
    rw [snd_rebuild, snd_rebuild]
    rfl
  · rfl

/-! ### Agreement -/

namespace Assignment

/-- The assignment of another task with the same particulars. -/
def withTask (a : Assignment) (t : Task) : Assignment :=
  { a with request := { a.request with task := t } }

/-- How a search for a query and a session whose input is that query agree: on an index, and on what
it answers. The two outcomes are given in this order. -/
structure Agree (a : Assignment) (w : Volume) (query : String) (showUrls : Bool) (x : Index)
    (searched conversed : Outcome) : Prop where
  /-- The search is supplied with the index, whatever goes wrong while the cache is saved. -/
  supplied : ∀ m, ({ a.supply with mishap := m }.provide w).2.index = x
  /-- The session begins with the index. -/
  opening : ((a.withTask (.repl showUrls)).opening w).index = x
  /-- Both leave the same files behind. -/
  volume : conversed.volume = searched.volume
  /-- The session comes to a good end. -/
  ended : conversed.code = 0 ∧ conversed.diagnostics = ""
  /-- If the query is accepted, the search comes to a good end too, lists the answer of the index,
  and its output is what the session writes between its two prompts. -/
  accepted : ∀ f, a.request.reader.read query = .ok f →
    searched.code = 0 ∧ searched.diagnostics = "" ∧
      searched.output = (if showUrls then x.listWithSources (x.answer f).toList
        else listIds (x.answer f).toList ++ "\n") ∧
      conversed.output = a.request.reader.spelling.prompt ++ searched.output ++
        a.request.reader.spelling.prompt
  /-- If the query is rejected, the search fails without output, and the session reports the same
  fault between its two prompts. -/
  rejected : ∀ fault, a.request.reader.read query = .error fault →
    searched.code = 1 ∧ searched.output = "" ∧
      searched.diagnostics = "Error: " ++ (Problem.query fault).record ++ "\n" ∧
      conversed.output = a.request.reader.spelling.prompt ++
        ("error: malformed query: " ++ fault.message ++ "\n") ++ a.request.reader.spelling.prompt

variable {a : Assignment} {u w : Volume} {y : Supplied} {query text : String} {showUrls : Bool}

/-- A search writes the listing of the answer and nothing else. -/
theorem search_of_accepted (h : a.supply.provide w = (u, y)) {f : Formula}
    (hf : a.request.reader.read query = .ok f) :
    a.search w query showUrls false =
      .success u (if showUrls then y.index.listWithSources (y.index.answer f).toList
        else listIds (y.index.answer f).toList ++ "\n") "" := by
  rw [search, h]
  simp only [Index.search, hf, Bool.false_eq_true, if_false]

theorem search_of_rejected (h : a.supply.provide w = (u, y)) {fault : QueryFault}
    (hfault : a.request.reader.read query = .error fault) :
    a.search w query showUrls false = .failure u "" (.query fault) := by
  rw [search, h]
  simp only [Index.search, hfault]

/-- A session of one query writes its prompt, the answer and the prompt again. -/
theorem repl_of_query (h : a.supply.provide w = (u, y)) (hline : textLines text = [query])
    (hcolon : (trim query.toList).head? ≠ some ':') :
    a.repl w showUrls (octetsOf text) =
      .success u (a.request.reader.spelling.prompt ++
        y.index.answerText a.request.reader showUrls query ++
          a.request.reader.spelling.prompt) "" := by
  rw [repl, Session.run_of_query _ _ hline hcolon, opening, h]
  rfl

/-- **A search and a session of one line agree** once their directories are found. -/
theorem agree_of_query (a : Assignment) (w : Volume) (showUrls : Bool)
    (hline : textLines text = [query]) (hcolon : (trim query.toList).head? ≠ some ':') :
    a.Agree w query showUrls (a.supply.provide w).2.index (a.search w query showUrls false)
      ((a.withTask (.repl showUrls)).repl w showUrls (octetsOf text)) := by
  rcases hsupply : a.supply.provide w with ⟨u, y⟩
  have hconversed :
      (a.withTask (.repl showUrls)).repl w showUrls (octetsOf text) =
        .success u (a.request.reader.spelling.prompt ++
          y.index.answerText a.request.reader showUrls query ++
            a.request.reader.spelling.prompt) "" :=
    repl_of_query hsupply hline hcolon
  refine ⟨fun m ↦ ?_, ?_, ?_, ?_, fun f hf ↦ ?_, fun fault hfault ↦ ?_⟩
  · rw [Supply.snd_provide_of_mishap, hsupply]
  · show (a.opening w).index = _
    rw [opening, hsupply]
  · rw [hconversed]
    rcases hread : a.request.reader.read query with fault | f
    · rw [search_of_rejected hsupply hread]
      rfl
    · rw [search_of_accepted hsupply hread]
      rfl
  · rw [hconversed]
    exact ⟨rfl, rfl⟩
  · have hsearch : y.index.search a.request.reader query = .ok (y.index.answer f).toList := by
      rw [Index.search, hf]
    rw [search_of_accepted hsupply hf, hconversed, Index.answerText, hsearch]
    exact ⟨rfl, rfl, rfl, rfl⟩
  · have hsearch : y.index.search a.request.reader query = .error fault := by
      rw [Index.search, hfault]
    rw [search_of_rejected hsupply hfault, hconversed, Index.answerText, hsearch]
    exact ⟨rfl, rfl, rfl, rfl⟩

end Assignment

namespace Volume

variable {v w : Volume} {e : Environment} {d : Path} {r : Request} {arguments arguments' : List String}
  {query text : String} {showUrls : Bool}

/-- **A search and a session that is given the query as its only line agree**, whatever is on the
volume, as long as the data directory can be found and made. They load equal indexes, even if the
cache cannot be saved. If the query is accepted, the search succeeds, and its output stands between
the two prompts of the session; if it is rejected, the search fails without output and the session
reports the fault. -/
theorem search_agrees_with_session (hread : Request.read arguments = .ok r)
    (htask : r.task = .search query showUrls false)
    (hread' : Request.read arguments' = .ok { r with task := .repl showUrls })
    (hdata : v.prepareData e r.dataDirectory? = (w, .ok d)) (hline : '\n' ∉ query.toList)
    (hcolon : (trim query.toList).head? ≠ some ':')
    (htext : text = query ++ "\n" ∨ text = query ∧ query ≠ "") (input : Octets) :
    ∃ x, Assignment.Agree ⟨r, d, e.corpus r.corpus?⟩ w query showUrls x
      (v.runCommand e arguments input) (v.runCommand e arguments' (octetsOf text)) := by
  have hlines : textLines text = [query] := by
    rcases htext with rfl | ⟨rfl, hne⟩
    · exact textLines_line hline
    · exact textLines_of_ne_empty hline hne
  have hsearched : v.runCommand e arguments input =
      Assignment.search ⟨r, d, e.corpus r.corpus?⟩ w query showUrls false := by
    rw [runCommand_eq_perform hread (by simp [htask]) hdata, Assignment.perform]
    simp only [htask]
  have hconversed : v.runCommand e arguments' (octetsOf text) =
      (Assignment.withTask ⟨r, d, e.corpus r.corpus?⟩ (.repl showUrls)).repl w showUrls
        (octetsOf text) := by
    rw [runCommand_eq_perform hread' (by simp) hdata]
    rfl
  rw [hsearched, hconversed]
  exact ⟨_, Assignment.agree_of_query _ w showUrls hlines hcolon⟩

/-- The page is there, but what should be its cache is not one, and nothing can be saved in its
place. -/
def spoiltCache : Volume :=
  ((onePage.put ["d"] .directory).put ["d", "index.json"] (.file [0x78])).put
    ["d", "index.json.tmp"] .directory

/-- A search for a word with blanks around it. -/
def paddedSearch : Request :=
  ⟨some ⟨"d"⟩, none, .cyrillic, false, false, .search " кот\t" true false⟩

/-- With a cache that cannot be used, both survey the pages again. The query has blanks around it,
which only the search is given. -/
theorem search_agrees_with_session_of_spoiltCache :
    (∃ x, Assignment.Agree ⟨paddedSearch, ⟨"d"⟩, ⟨"Pages"⟩⟩ spoiltCache " кот\t" true x
      (spoiltCache.runCommand ∅ ["--data-dir", "d", "search", "--show-urls", " кот\t"] [])
      (spoiltCache.runCommand ∅ ["repl", "--show-urls", "--data-dir", "d"]
        (octetsOf " кот\t\n"))) ∧
      spoiltCache.runCommand ∅ ["--data-dir", "d", "search", "--show-urls", " кот\t"] [] =
        .success spoiltCache "[1]\n1\ta\n" "" := by
  have hread : Request.read ["--data-dir", "d", "search", "--show-urls", " кот\t"] =
      .ok paddedSearch := by decide +kernel
  have hread' : Request.read ["repl", "--show-urls", "--data-dir", "d"] =
      .ok { paddedSearch with task := .repl true } := by decide +kernel
  have hdata : spoiltCache.prepareData ∅ paddedSearch.dataDirectory? = (spoiltCache, .ok ⟨"d"⟩) := by
    decide +kernel
  exact ⟨search_agrees_with_session hread rfl hread' hdata (by decide) (by decide +kernel)
    (.inl rfl) [], by decide +kernel⟩

end Volume

end Concordance
