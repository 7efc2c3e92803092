import GSMaster.Downloads.Queue
import GSMaster.Net.Resolver
import GSMaster.Packets.MasterQueries

/-!
# The lines of the two list files

`HTTP_DL_List` reads its file as `Master_DL_List` does, three tokens at a time
whatever lines they stand on, but skips no further than the end of a record.
In both files a line is read as the record that it is only if the tokens before
it come in threes.
-/

namespace GSMaster.Downloads

open GSMaster.Text GSMaster.Net GSMaster.Library GSMaster.Packets

end GSMaster.Downloads
