import AsyncSequential.Lib.Runs
import AsyncSequential.Lib.OneShot
import AsyncSequential.Lib.Sequence
import AsyncSequential.Faults
import AsyncSequential.Spawners
import AsyncSequential.Orphans
import AsyncSequential.Takers
import AsyncSequential.Report
import AsyncSequential.Lost
import AsyncSequential.Panic
import AsyncSequential.Detached
import AsyncSequential.Wake
import AsyncSequential.Exclusive
import AsyncSequential.Lib.Rest
import AsyncSequential.Rank
import AsyncSequential.Rest
import AsyncSequential.Served
import AsyncSequential.Drained
import AsyncSequential.Outcomes
import AsyncSequential.Calls
import AsyncSequential.Atomic
