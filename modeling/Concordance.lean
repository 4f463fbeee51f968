import Concordance.Cache.Record
import Concordance.Cache.Storage
import Concordance.Command.Arguments
import Concordance.Command.Directories
import Concordance.Command.Request
import Concordance.Command.Run
import Concordance.Corpus.Manifest
import Concordance.Corpus.Survey
import Concordance.DocId
import Concordance.Handles
import Concordance.Index.Answer
import Concordance.Index.Basic
import Concordance.Index.Listing
import Concordance.Json.Decoding
import Concordance.Json.Literal
import Concordance.Json.Reading
import Concordance.Json.Value
import Concordance.Json.Writing
import Concordance.Main
import Concordance.Markup.Cutout
import Concordance.Markup.Visible
import Concordance.Ordered.Map
import Concordance.Ordered.Set
import Concordance.Problem
import Concordance.Proofs.Accounts
import Concordance.Proofs.Answer
import Concordance.Proofs.AnswerLaws
import Concordance.Proofs.Blank
import Concordance.Proofs.CacheAcceptance
import Concordance.Proofs.CacheAtomicity
import Concordance.Proofs.CacheDamage
import Concordance.Proofs.CacheRecord
import Concordance.Proofs.CacheStorage
import Concordance.Proofs.Contributions
import Concordance.Proofs.CorpusGrowth
import Concordance.Proofs.CursorPlaces
import Concordance.Proofs.Cut
import Concordance.Proofs.DataDirectory
import Concordance.Proofs.Decimal
import Concordance.Proofs.Division
import Concordance.Proofs.Holdings
import Concordance.Proofs.Index
import Concordance.Proofs.Interruption
import Concordance.Proofs.Json.Completeness
import Concordance.Proofs.Json.Grammar
import Concordance.Proofs.Json.Literal
import Concordance.Proofs.Json.Meaning
import Concordance.Proofs.Json.RoundTrip
import Concordance.Proofs.Json.Soundness
import Concordance.Proofs.JsonListing
import Concordance.Proofs.LowerCase
import Concordance.Proofs.Manifest
import Concordance.Proofs.ManifestColumns
import Concordance.Proofs.ManifestGrammar
import Concordance.Proofs.Markup.Element
import Concordance.Proofs.Markup.Pruning
import Concordance.Proofs.Markup.Region
import Concordance.Proofs.Markup.Script
import Concordance.Proofs.Merging
import Concordance.Proofs.NormalTerms
import Concordance.Proofs.OctetOrder
import Concordance.Proofs.Octets
import Concordance.Proofs.Ordered
import Concordance.Proofs.Parts
import Concordance.Proofs.PrintedFormula
import Concordance.Proofs.Publications
import Concordance.Proofs.QueryComposition
import Concordance.Proofs.QueryFaults
import Concordance.Proofs.QueryGrammar
import Concordance.Proofs.ReportOrder
import Concordance.Proofs.Retrieval
import Concordance.Proofs.SessionCourse
import Concordance.Proofs.SessionEnd
import Concordance.Proofs.SessionFrame
import Concordance.Proofs.SingleLine
import Concordance.Proofs.SingleSearch
import Concordance.Proofs.SourceListing
import Concordance.Proofs.StatusReport
import Concordance.Proofs.Stretches
import Concordance.Proofs.Supply
import Concordance.Proofs.SupplyFrame
import Concordance.Proofs.Survey
import Concordance.Proofs.Terms
import Concordance.Proofs.Volume.Growth
import Concordance.Proofs.Volume.Path
import Concordance.Proofs.Volume.Places
import Concordance.Proofs.WordSearch
import Concordance.Query.Fault
import Concordance.Query.Formula
import Concordance.Query.Piece
import Concordance.Query.Reading
import Concordance.Session
import Concordance.Settings
import Concordance.Supply
import Concordance.Term
import Concordance.Text.Blank
import Concordance.Text.CharClass
import Concordance.Text.Cut
import Concordance.Text.Letter
import Concordance.Text.LowerCase
import Concordance.Text.Octets
import Concordance.Text.Quoted
import Concordance.Text.Unprintable
import Concordance.Text.WordCharacter
import Concordance.Volume.Basic
import Concordance.Volume.Change
import Concordance.Volume.Fault
import Concordance.Volume.Path
import Concordance.Volume.Replacement
import Concordance.Workbench
