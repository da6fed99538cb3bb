import RuleCap.Limit
import RuleCap.Line

/-!
# Settings

What a trim goes by: the limit and the prefixes of comments. Documents of both formats hold settings under two names;
what a document does not set has its default (`Draft.toSettings`).
-/

namespace RuleCap

/-- The limit and the prefixes of comments. -/
structure Settings where
  limit : Limit
  prefixes : Prefixes
deriving DecidableEq, Repr

namespace Settings

/-- The prefixes that nothing else sets. -/
def defaultPrefixes : Prefixes := [['!'], ['#']]

/-- The settings that nothing else sets. -/
def default : Settings := ⟨Limit.default, defaultPrefixes⟩

instance : Inhabited Settings := ⟨default⟩

/-- The settings with another limit. -/
def withLimit (s : Settings) (limit : Limit) : Settings := { s with limit }

/-! ## Settings in documents -/

/-- The name of the limit in a document. -/
def limitField : Text := "max_rules".toList

/-- The name of the prefixes in a document. -/
def prefixesField : Text := "comment_prefixes".toList

/-- Settings being read. -/
structure Draft where
  limit : Option Limit
  prefixes : Option Prefixes

/-- The draft without any field. -/
def Draft.empty : Draft := ⟨none, none⟩

/-- The settings of a draft; what it lacks has its default. -/
def Draft.toSettings (d : Draft) : Settings :=
  ⟨d.limit.getD Settings.default.limit, d.prefixes.getD Settings.default.prefixes⟩

end Settings

end RuleCap
