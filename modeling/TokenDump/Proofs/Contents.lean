import TokenDump.Proofs.Comments
import TokenDump.Proofs.Destinations
import TokenDump.Proofs.Undecodable

/-! # Contents of sources

A source is scanned to its end exactly if its content encodes a text. Else there is no lexer, or it
comes upon a fault. -/
namespace TokenDump.Dump

open Lexer

variable {f : Folder} {source : String} {text : String} {settings : Settings.Scanning} {l : Lexer}
  {ts : List (Located Token)} {content bad : Bytes}

theorem delivers_pieces (content : Bytes) :
    (Feed.ofChunks (Folder.pieces Folder.readBuffer content)).Delivers content [] := by
  have hpieces := Feed.chunked_ofChunks (Folder.nil_notMem_pieces Folder.readBuffer content)
  rw [Folder.flatten_pieces (by decide)] at hpieces
  exact hpieces.delivers

theorem Opens.ofFeed (h : Opens f source settings l) (hc : f.contentOf source = .ok content) :
    (Lexer.ofFeed (.ofChunks (Folder.pieces Folder.readBuffer content)) settings).1 = .ok l := by
  obtain ⟨feed, hopen, hprime⟩ := h
  obtain rfl := Except.ok.inj ((Folder.openFile_of_content hc).symm.trans hopen)
  exact hprime

theorem Opens.exists_content (h : Opens f source settings l) :
    ∃ content, f.contentOf source = .ok content := by
  obtain ⟨feed, hopen, hprime⟩ := h
  rcases Folder.openFile_ok hopen with rfl | ⟨content, hcontent, -⟩
  · obtain ⟨error, herror⟩ := ofFeed_directory settings
    simp [herror] at hprime
  · exact ⟨content, hcontent⟩

theorem exists_opens (settings : Settings.Scanning)
    (hc : f.contentOf source = .ok (Utf8.encode text.toList)) :
    ∃ l, Opens f source settings l := by
  obtain ⟨c, hprime, -⟩ := Cursor.prime_delivered (delivers_pieces (Utf8.encode text.toList))
  exact ⟨.ofCursor c settings, _, Folder.openFile_of_content hc, by rw [Lexer.ofFeed, hprime]⟩

theorem Opens.drain_text (h : Opens f source settings l)
    (hc : f.contentOf source = .ok (Utf8.encode text.toList))
    (hts : Segmentation settings.trivia .start text.toList ts) :
    l.drain.1 = ts ∧ l.drain.2.1 = none := by
  have hfresh : FreshOn settings text l := .ofFeed (delivers_pieces _) (h.ofFeed hc)
  obtain ⟨hreads, hsettings, -⟩ := hfresh.reads
  exact drain_of_segmentation hts hreads (congrArg _ hsettings)

theorem Opens.failure_ne_none (h : Opens f source settings l) {text : List Char}
    (hc : f.contentOf source = .ok (Utf8.encode text ++ bad)) (hne : bad ≠ [])
    (hbad : ∀ c, ¬ String.utf8EncodeChar c <+: bad) : l.drain.2.1 ≠ none := by
  have hprime := h.ofFeed hc
  obtain ⟨rest, hreadings, hrest⟩ := (delivers_pieces (Utf8.encode text ++ bad)).readings
  obtain ⟨fault, last, hread, -⟩ := hrest.read_undecodable ⟨hbad, .inl ⟨rfl, hne⟩⟩
  have hfeed : rest ≠ [] := by
    rintro rfl
    simp [Feed.read, Feed.byte] at hread
  rw [Feed.readings_of_ne_nil hfeed, hread] at hreadings
  by_cases hshort : text.length < 2
  · obtain ⟨c, hfails, -⟩ := Cursor.prime_short hreadings hshort
    simp [Lexer.ofFeed, hfails] at hprime
  · obtain ⟨c, hprimed, hshows, hpos⟩ := Cursor.prime_faulty hreadings (by omega)
    rw [Lexer.ofFeed, hprimed] at hprime
    obtain rfl := Except.ok.inj hprime
    obtain ⟨ts, hts⟩ := exists_segmentation settings.trivia .start text
    have hreads : (ofCursor c settings).Reads (some fault) .start text :=
      ⟨rfl, rfl, hshows, hpos⟩
    rw [(drain_of_faulty hts hreads rfl).2.1]
    exact Option.some_ne_none _

/-- Without a fault on the way to the end the content is that of a text. -/
theorem Opens.exists_text (h : Opens f source settings l) (hd : l.drain.2.1 = none) :
    ∃ text : String, f.contentOf source = .ok (Utf8.encode text.toList) := by
  obtain ⟨content, hcontent⟩ := h.exists_content
  obtain ⟨text, bad, rfl, hbad⟩ := Utf8.exists_split content
  by_cases hne : bad = []
  · subst hne
    exact ⟨String.ofList text, by simpa using hcontent⟩
  · exact absurd hd (h.failure_ne_none hcontent hne hbad)

end TokenDump.Dump
