/-
Digests: short texts that stand for messages. Which function of the message
they are makes no difference here.
-/
namespace SeriesQuery

/-- What gives a message the text that stands for it. -/
class Digest where
  digest : List UInt8 → String

end SeriesQuery
