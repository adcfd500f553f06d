import Autoresponder.Selection.Basic
import Autoresponder.Trigger.Document

/-!
# Answers of the knowledge base as documents
-/

namespace Autoresponder.FaqAnswer

open Json RecordReader

def fromJson : Decoder FaqAnswer := asRecord do
  let question ← field "question" asString
  let answer ← field "answer" asString
  let score ← field "score" asSingle
  return { question, answer, score }

end Autoresponder.FaqAnswer
